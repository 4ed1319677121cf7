import AuctionHouse.Price.Shortest

/-!
# How a price is written

Three forms are in use.  `Price.plain` and `Price.detailed` write the shortest decimal that reads
back: the plain form never uses a power of ten and drops the point of a whole number; the detailed
form keeps a place after the point and uses a power of ten for very great and very small numbers.
`Price.withTwoPlaces` rounds the exact value to hundredths, a half going to the even digit.
-/

namespace AuctionHouse

/-- The choices in which the forms with shortest digits differ. -/
structure DecimalStyle where
  /-- Whether a whole number is written with one place after the point. -/
  keepsPoint : Bool
  /-- Whether a number whose first digit has this power of ten is written without a power. -/
  isPositional : Int → Bool

namespace Decimal

/-- Point notation: zeros fill the gap between the digits and the point. -/
def positional (keepsPoint : Bool) (decimal : Decimal) : String :=
  let digits := Nat.toDigits 10 decimal.digits
  let places := (-decimal.exponent).toNat
  if places = 0 then
    String.ofList (digits ++ List.replicate decimal.exponent.toNat '0')
      ++ (if keepsPoint then ".0" else "")
  else
    let padded := List.replicate (places + 1 - digits.length) '0' ++ digits
    let whole := padded.length - places
    String.ofList (padded.take whole ++ '.' :: padded.drop whole)

/-- One digit before the point, the others behind it, and the power of ten. -/
def scientific (decimal : Decimal) : String :=
  match Nat.toDigits 10 decimal.digits with
  | first :: second :: rest =>
    String.ofList (first :: '.' :: second :: rest) ++ "e" ++ toString decimal.leading
  | digits => String.ofList digits ++ "e" ++ toString decimal.leading

/-- The decimal in the given style. -/
def render (decimal : Decimal) (style : DecimalStyle) : String :=
  if style.isPositional decimal.leading then decimal.positional style.keepsPoint
  else decimal.scientific

end Decimal

namespace Price

/-- Every number in full, whole numbers without a point. -/
def plainStyle : DecimalStyle := ⟨false, fun _ => true⟩

/-- Numbers from 0.0001 up to 10 ^ 16 in full, whole numbers with one place after the point. -/
def detailedStyle : DecimalStyle := ⟨true, fun leading => -4 ≤ leading && leading < 16⟩

/-- The sign as it is written, negative zero included. -/
def signText (price : Price) : String := if price.isNegative then "-" else ""

/-- What is written in front of the given text of the absolute value; infinities and what is not a
number have texts of their own. -/
def signed (price : Price) (text : String) : String :=
  if price.isNaN then "NaN"
  else price.signText ++ (if price.isInfinite then "inf" else text)

/-- The price with the fewest digits, never with a power of ten. -/
def plain (price : Price) : String := price.signed (price.shortest.render plainStyle)

/-- The price with the fewest digits, recognisable as a number with places. -/
def detailed (price : Price) : String := price.signed (price.shortest.render detailedStyle)

/-- The price rounded to hundredths. -/
def withTwoPlaces (price : Price) : String :=
  price.signed (Decimal.positional false ⟨roundHalfEven (100 * price.units) unitsPerOne, -2⟩)

end Price

end AuctionHouse
