import AuctionHouse.Price.Basic

/-!
# Rounding to prices

Every finite price is a whole multiple of 2 ^ -1074, the least positive price, so its exact value
is the integer `Price.signedUnits`.  Rounding a quotient to the nearest price, a half going to the
even neighbour, is then one division of natural numbers.  `Price.hundredths` is the weight of a
price in whole hundredths: the product with one hundred is itself rounded to a price before it is
cut down to an integer.
-/

namespace AuctionHouse

/-- The quotient rounded to the nearest integer, a half going to the even one. -/
def roundHalfEven (numerator denominator : Nat) : Nat :=
  let quotient := numerator / denominator
  let remainder := numerator % denominator
  if 2 * remainder < denominator then quotient
  else if denominator < 2 * remainder then quotient + 1
  else quotient + quotient % 2

namespace Price

/-- How many units make one. -/
def unitsPerOne : Nat := 1 <<< 1074

/-- The absolute value in units. -/
def units (price : Price) : Nat :=
  let exponent := price.magnitude / (1 <<< 52)
  let fraction := price.magnitude % (1 <<< 52)
  if exponent = 0 then fraction else ((1 <<< 52) + fraction) <<< (exponent - 1)

/-- The value in units. -/
def signedUnits (price : Price) : Int :=
  if price.isNegative then -(price.units : Int) else price.units

/-- The magnitude nearest to a quotient of units; what is too great becomes infinite. -/
def nearestMagnitude (numerator denominator : Nat) : Nat :=
  let shift := (numerator / denominator).log2 - 52
  min infinityMagnitude ((shift <<< 52) + roundHalfEven numerator (denominator <<< shift))

/-- The price nearest to a quotient with the given sign. -/
def ofRatio (negative : Bool) (numerator denominator : Nat) : Price :=
  ofParts negative (nearestMagnitude (numerator * unitsPerOne) denominator)

/-- One hundred times the price, rounded to a price. -/
def hundredfold (price : Price) : Price :=
  if price.isNaN then price else ofParts price.isNegative (nearestMagnitude (100 * price.units) 1)

/-- The greatest integer that is not above the price. -/
def floor (price : Price) : Int := price.signedUnits / (unitsPerOne : Int)

/-- The integer clamped into the range of a signed word of 64 bits. -/
def clampToWord (value : Int) : Int :=
  max Int64.minValue.toInt (min Int64.maxValue.toInt value)

/-- The price in whole hundredths, rounded down and kept within 64 bits; what is not a number
counts as nothing. -/
def hundredths (price : Price) : Int :=
  if price.isNaN then 0 else clampToWord price.hundredfold.floor

end Price

end AuctionHouse
