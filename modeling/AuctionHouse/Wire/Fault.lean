import AuctionHouse.Text.Utf8

/-!
# Why bytes cannot be read

The causes for which a reader of bytes refuses its input, and their wording.
-/

namespace AuctionHouse.Wire

/-- The kinds of integers that the wire format tells apart. -/
inductive IntegerKind where
  /-- Up to 32 bits. -/
  | word32
  /-- Up to 64 bits. -/
  | word64
  /-- Up to 128 bits, which no value of this library has. -/
  | word128
  /-- A count of elements. -/
  | length
  /-- 32 bits with a sign. -/
  | signed32
  /-- 64 bits with a sign. -/
  | signed64
  /-- 128 bits with a sign. -/
  | signed128
  /-- A count with a sign. -/
  | signedLength
  /-- A marker without a meaning. -/
  | reserved
deriving DecidableEq

/-- The kind with a sign that has the same width. -/
def IntegerKind.signed : IntegerKind → IntegerKind
  | .word32 => .signed32
  | .word64 => .signed64
  | .word128 => .signed128
  | .length => .signedLength
  | other => other

/-- The name of the kind. -/
def IntegerKind.text : IntegerKind → String
  | .word32 => "U32"
  | .word64 => "U64"
  | .word128 => "U128"
  | .length => "Usize"
  | .signed32 => "I32"
  | .signed64 => "I64"
  | .signed128 => "I128"
  | .signedLength => "Isize"
  | .reserved => "Reserved"

/-- Why bytes are refused. -/
inductive Fault where
  /-- The bytes end too early; so many more would have been needed. -/
  | unexpectedEnd (additional : Nat)
  /-- An integer is written wider than its reader takes. -/
  | integerKind (expected found : IntegerKind)
  /-- A choice among `count` alternatives has a number that is too great. -/
  | unknownVariant (found count : Nat)
  /-- The byte that tells whether there is a value is neither zero nor one. -/
  | optionMark (found : Nat)
  /-- A text is not UTF-8. -/
  | text (fault : Text.Utf8Fault)
deriving DecidableEq

/-- The refusal of an unsigned reader as the signed reader on top of it reports it. -/
def Fault.signed : Fault → Fault
  | .integerKind expected found => .integerKind expected.signed found.signed
  | other => other

/-- The cause in words. -/
def Fault.message : Fault → String
  | .unexpectedEnd additional =>
    "UnexpectedEnd \x7b additional: " ++ toString additional ++ " \x7d"
  | .integerKind expected found =>
    "InvalidIntegerType \x7b expected: " ++ expected.text ++ ", found: " ++ found.text ++ " \x7d"
  | .unknownVariant found count =>
    "OtherString(\"invalid value: integer `" ++ toString found ++
      "`, expected variant index 0 <= i < " ++ toString count ++ "\")"
  | .optionMark found =>
    "UnexpectedVariant \x7b type_name: \"Option<T>\", allowed: Range \x7b min: 0, max: 1 \x7d, " ++
      "found: " ++ toString found ++ " \x7d"
  | .text fault =>
    "Utf8 \x7b inner: Utf8Error \x7b valid_up_to: " ++ toString fault.validUpTo ++
      ", error_len: " ++
      (match fault.length with
        | some length => "Some(" ++ toString length ++ ")"
        | none => "None") ++ " \x7d \x7d"

end AuctionHouse.Wire
