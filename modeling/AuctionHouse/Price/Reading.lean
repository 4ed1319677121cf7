import AuctionHouse.Price.Rounding
import AuctionHouse.Text.Numeral

/-!
# Reading a price

A written price has an optional sign and is then an infinity, the text for what is not a number,
or a decimal: digits with at most one point among them and at least one digit in all, and perhaps
a power of ten.  Letters may be of either case.  The price read is the one nearest to the number
written.
-/

namespace AuctionHouse

namespace Price

/-- The positive infinity, or the negative one. -/
def infinity (negative : Bool) : Price := ofParts negative infinityMagnitude

/-- A pattern that is not a number. -/
def notANumber (negative : Bool) : Price := ofParts negative (infinityMagnitude + (1 <<< 51))

/-- The price nearest to `digits * 10 ^ exponent`.  A power that is far out of range is not worked
out: with the given count of digits the number is then infinite or rounds to zero. -/
def ofDecimal (negative : Bool) (digits count : Nat) (exponent : Int) : Price :=
  if digits = 0 ∨ exponent + count < -400 then ofParts negative 0
  else if 400 < exponent then infinity negative
  else ofRatio negative (digits * Nat.pow 10 exponent.toNat) (Nat.pow 10 (-exponent).toNat)

/-- Removes a sign in front; a minus sign gives `true`. -/
def readSign : List Char → Bool × List Char
  | '-' :: rest => (true, rest)
  | '+' :: rest => (false, rest)
  | text => (false, text)

/-- The power of ten at the end of a decimal: nothing, or the letter, a sign and digits. -/
def readPower? : List Char → Option Int
  | [] => some 0
  | letter :: rest =>
    let (negative, digits) := readSign rest
    if letter.toLower = 'e' ∧ digits ≠ [] ∧ digits.all Char.isDigit = true then
      some (if negative then -(Text.digitsValue digits : Int) else Text.digitsValue digits)
    else
      none

/-- A decimal without its sign. -/
def readDecimal? (negative : Bool) (text : List Char) : Option Price :=
  let whole := text.takeWhile Char.isDigit
  let afterWhole := text.dropWhile Char.isDigit
  let (places, afterPlaces) := match afterWhole with
    | '.' :: rest => (rest.takeWhile Char.isDigit, rest.dropWhile Char.isDigit)
    | _ => ([], afterWhole)
  let digits := whole ++ places
  if digits = [] then none
  else
    (readPower? afterPlaces).map fun power =>
      ofDecimal negative (Text.digitsValue digits) digits.length (power - places.length)

/-- The price that a text stands for. -/
def read? (text : List Char) : Option Price :=
  let (negative, rest) := readSign text
  let word := String.ofList (rest.map Char.toLower)
  if word = "inf" ∨ word = "infinity" then some (infinity negative)
  else if word = "nan" then some (notANumber negative)
  else readDecimal? negative rest

end Price

end AuctionHouse
