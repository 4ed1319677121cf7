/-!
# Numerals

Reading natural numbers that are written in the ten ASCII digits.
-/

namespace AuctionHouse.Text

/-- The number that a list of digits stands for, the empty list for zero. -/
def digitsValue (digits : List Char) : Nat :=
  digits.foldl (fun value digit => 10 * value + (digit.toNat - '0'.toNat)) 0

/-- A natural number up to a limit, with at least one digit and at most one plus sign before it. -/
def readNatural? (limit : Nat) (text : List Char) : Option Nat :=
  let digits := match text with
    | '+' :: rest => rest
    | _ => text
  if digits ≠ [] ∧ digits.all Char.isDigit = true ∧ digitsValue digits ≤ limit then
    some (digitsValue digits)
  else
    none

end AuctionHouse.Text
