import AuctionHouse.Wire.Reader

/-!
# Integers on the wire

Small numbers take one byte.  From 251 on a marker byte tells how many bytes follow, two, four or
eight, the least significant first.  Numbers with a sign are first folded onto the natural numbers,
those below zero between the others, so that small absolute values stay short.
-/

namespace AuctionHouse.Wire

/-- The lowest `count` bytes of a number, the least significant first. -/
def littleEndian : Nat → Nat → List UInt8
  | 0, _ => []
  | count + 1, number => UInt8.ofNat (number % 256) :: littleEndian count (number / 256)

/-- The number with these bytes, the least significant first. -/
def ofLittleEndian (bytes : List UInt8) : Nat :=
  bytes.foldr (fun byte number => byte.toNat + 256 * number) 0

@[simp]
theorem length_littleEndian (count number : Nat) : (littleEndian count number).length = count := by
  induction count generalizing number with
  | zero => rfl
  | succ count ih => simp [littleEndian, ih]

/-- A number that fits is read back from its bytes. -/
theorem ofLittleEndian_littleEndian {count number : Nat} (fits : number < Nat.pow 256 count) :
    ofLittleEndian (littleEndian count number) = number := by
  induction count generalizing number with
  | zero =>
    have zero : number = 0 := by simpa using fits
    rw [zero]
    rfl
  | succ count ih =>
    have quotient : number / 256 < Nat.pow 256 count := by
      have power : Nat.pow 256 (count + 1) = Nat.pow 256 count * 256 := rfl
      omega
    have byte : (UInt8.ofNat (number % 256)).toNat = number % 256 := by
      rw [UInt8.toNat_ofNat']
      omega
    have step : ofLittleEndian (littleEndian (count + 1) number) =
        (UInt8.ofNat (number % 256)).toNat +
          256 * ofLittleEndian (littleEndian count (number / 256)) := rfl
    rw [step, ih quotient, byte]
    omega

/-- A number below 2 ^ 64 in as few bytes as the format allows. -/
def writeNatural (number : Nat) : List UInt8 :=
  if number ≤ 250 then [UInt8.ofNat number]
  else if number < UInt16.size then 251 :: littleEndian 2 number
  else if number < UInt32.size then 252 :: littleEndian 4 number
  else 253 :: littleEndian 8 number

/-- Reads a number of which the first byte has been taken.  A reader that is not wide takes no
numbers of eight bytes. -/
def readMarked (isWide : Bool) (expected : IntegerKind) (first : UInt8) : Reader Nat :=
  if first ≤ 250 then pure first.toNat
  else if first = 251 then do pure (ofLittleEndian (← Reader.take 2))
  else if first = 252 then do pure (ofLittleEndian (← Reader.take 4))
  else if first = 253 then
    if isWide then do pure (ofLittleEndian (← Reader.take 8))
    else Reader.refuse (.integerKind expected .word64)
  else if first = 254 then Reader.refuse (.integerKind expected .word128)
  else Reader.refuse (.integerKind expected .reserved)

/-- Reads a number below 2 ^ 32. -/
def readWord32 : Reader Nat := do
  readMarked false .word32 (← Reader.byte)

/-- Reads a number below 2 ^ 64.  With nine bytes in sight, as many as the longest form takes, a
marker without a meaning here is reported against the narrower kind. -/
def readWord64 : Reader Nat := fun bytes =>
  let expected := if (bytes.drop 8).isEmpty then IntegerKind.word64 else .word32
  (do readMarked true expected (← Reader.byte) : Reader Nat) bytes

/-- Reads a count. -/
def readLength : Reader Nat := do
  readMarked true .length (← Reader.byte)

/-- The natural number for an integer: even ones from zero upwards, odd ones from minus one
downwards. -/
def fold (integer : Int) : Nat :=
  if 0 ≤ integer then 2 * integer.toNat else 2 * (-integer).toNat - 1

/-- The integer for a natural number. -/
def unfold (number : Nat) : Int :=
  if number % 2 = 0 then ((number / 2 : Nat) : Int) else -((number / 2 : Nat) : Int) - 1

/-- Reads an integer of 64 bits with a sign. -/
def readSigned64 : Reader Int := fun bytes =>
  match readWord64 bytes with
  | .ok (number, rest) => .ok (unfold number, rest)
  | .error fault => .error fault.signed

/-- Folding loses nothing. -/
@[simp]
theorem unfold_fold (integer : Int) : unfold (fold integer) = integer := by
  unfold Wire.unfold fold
  split <;> split <;> omega

end AuctionHouse.Wire
