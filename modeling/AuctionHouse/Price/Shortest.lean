import AuctionHouse.Price.Rounding

/-!
# The shortest decimal of a price

The reals that round to a finite price form an interval around it.  Among the decimals in that
interval the ones with the fewest digits are singled out, and of those the nearest to the price;
if two are equally near, the greater.  All comparisons are made on natural numbers: on the grid of
multiples of a power of ten only the two neighbours of the price have to be looked at.
-/

namespace AuctionHouse

/-- The number `digits * 10 ^ exponent`. -/
structure Decimal where
  /-- The digits, read as one natural number. -/
  digits : Nat
  /-- The power of ten that they are multiplied by. -/
  exponent : Int
deriving DecidableEq

namespace Decimal

/-- How many digits there are. -/
def length (decimal : Decimal) : Nat := (Nat.toDigits 10 decimal.digits).length

/-- The power of ten of the first digit. -/
def leading (decimal : Decimal) : Int := decimal.exponent + decimal.length - 1

/-- Moves up to `fuel` zeros at the end of the digits into the exponent. -/
def strip (decimal : Decimal) : Nat → Decimal
  | 0 => decimal
  | fuel + 1 =>
    if decimal.digits % 10 = 0 then
      strip ⟨decimal.digits / 10, decimal.exponent + 1⟩ fuel
    else
      decimal

end Decimal

/-- The reals that round to one magnitude, in quarters of a unit. -/
structure RoundingInterval where
  /-- The value itself. -/
  value : Nat
  /-- Halfway to the magnitude below. -/
  lower : Nat
  /-- Halfway to the magnitude above. -/
  upper : Nat
  /-- Whether the two ends belong to the interval: halves go to even magnitudes. -/
  closed : Bool

namespace RoundingInterval

/-- The interval of a finite magnitude other than zero.  Below a power of two the next magnitude
is only half as far away as above it. -/
def ofMagnitude (magnitude : Nat) : RoundingInterval :=
  let exponent := magnitude / (1 <<< 52)
  let fraction := magnitude % (1 <<< 52)
  let significand := if exponent = 0 then fraction else (1 <<< 52) + fraction
  let scale := 1 <<< (exponent - 1)
  let below := if fraction = 0 ∧ 1 < exponent then 1 else 2
  { value := 4 * significand * scale
    lower := (4 * significand - below) * scale
    upper := (4 * significand + 2) * scale
    closed := magnitude % 2 = 0 }

/-- Of the two multiples of `10 ^ place` around the value the one in the interval; if both are in
it, the nearer, and the upper one of two equally near. -/
def onGrid? (interval : RoundingInterval) (place : Int) : Option Nat :=
  let refinement := Nat.pow 10 (-place).toNat
  let step := 4 * Price.unitsPerOne * Nat.pow 10 place.toNat
  let value := interval.value * refinement
  let lower := interval.lower * refinement
  let upper := interval.upper * refinement
  let isInside (point : Nat) : Bool :=
    if interval.closed then lower ≤ point && point ≤ upper else lower < point && point < upper
  let floor := value / step
  match isInside (floor * step), isInside ((floor + 1) * step) with
  | true, true =>
    some (if (floor + 1) * step - value ≤ value - floor * step then floor + 1 else floor)
  | true, false => some floor
  | false, true => some (floor + 1)
  | false, false => none

/-- The power of ten at or below the value. -/
def leading (interval : RoundingInterval) : Int :=
  let one := 4 * Price.unitsPerOne
  if one ≤ interval.value then
    ((Nat.toDigits 10 (interval.value / one)).length : Int) - 1
  else
    -((Nat.toDigits 10 (one / interval.value)).length : Int)

/-- The shortest decimal in the interval; seventeen digits are always enough. -/
def shortest (interval : RoundingInterval) : Decimal :=
  let places := (List.range 17).map fun (count : Nat) => interval.leading - (count : Int)
  match places.findSome? fun place => (interval.onGrid? place).map (Decimal.mk · place) with
  | some decimal => decimal.strip 17
  | none => ⟨interval.value, 0⟩

end RoundingInterval

/-- The shortest decimal that rounds to the absolute value of a finite price. -/
def Price.shortest (price : Price) : Decimal :=
  if price.magnitude = 0 then ⟨0, 0⟩
  else (RoundingInterval.ofMagnitude price.magnitude).shortest

end AuctionHouse
