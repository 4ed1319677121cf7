/-!
# Prices

A price is a binary64 number kept as its bit pattern.  Two relations live on it.  Equality as
values of the type is equality of patterns: it is what a faithful copy preserves.  The comparisons
`==` and `<` are the numeric ones: both zeros are one number, and a pattern that is not a number
equals nothing, is below nothing and is above nothing.  Numeric comparison is reduced to the
integer `Price.rank`, so that the order of prices is the order of integers.
-/

namespace AuctionHouse

/-- A price in binary64. -/
structure Price where
  /-- Sign bit, eleven exponent bits and fifty-two fraction bits. -/
  bits : UInt64
deriving DecidableEq, Inhabited

namespace Price

/-- The pattern without its sign bit. -/
def magnitude (price : Price) : Nat := price.bits.toNat % (1 <<< 63)

/-- Whether the sign bit is set. -/
def isNegative (price : Price) : Bool := decide ((1 <<< 63) ≤ price.bits.toNat)

/-- The magnitude of the two infinities; every greater one is not a number. -/
def infinityMagnitude : Nat := 2047 <<< 52

/-- Whether the pattern stands for no number at all. -/
def isNaN (price : Price) : Bool := decide (infinityMagnitude < price.magnitude)

/-- Whether the pattern is one of the two infinities. -/
def isInfinite (price : Price) : Bool := decide (price.magnitude = infinityMagnitude)

/-- The price with the given sign and magnitude. -/
def ofParts (negative : Bool) (magnitude : Nat) : Price :=
  ⟨UInt64.ofNat ((if negative then 1 <<< 63 else 0) + magnitude)⟩

/-- The positive zero. -/
def zero : Price := ⟨0⟩

/-- Position on the number line: numbers are ordered as their ranks, and both zeros have rank 0. -/
def rank (price : Price) : Int :=
  if price.isNegative then -(price.magnitude : Int) else price.magnitude

/-- Numeric comparison; nothing is below or above a pattern that is not a number. -/
instance : LT Price where
  lt left right := left.isNaN = false ∧ right.isNaN = false ∧ left.rank < right.rank

instance (left right : Price) : Decidable (left < right) :=
  inferInstanceAs (Decidable (_ ∧ _ ∧ _))

/-- Numeric equality; a pattern that is not a number differs from everything, itself included. -/
instance : BEq Price where
  beq left right := !left.isNaN && !right.isNaN && left.rank == right.rank

/-- The price itself if it is above zero, and otherwise the positive zero: for what is below zero,
for the negative zero, and for what is not a number. -/
def atLeastZero (price : Price) : Price := if zero < price then price else zero

theorem lt_iff (left right : Price) :
    left < right ↔ left.isNaN = false ∧ right.isNaN = false ∧ left.rank < right.rank :=
  Iff.rfl

theorem lt_irrefl (price : Price) : ¬price < price := fun below => Int.lt_irrefl _ below.2.2

theorem lt_trans {low middle high : Price} (below : low < middle) (above : middle < high) :
    low < high :=
  ⟨below.1, above.2.1, Int.lt_trans below.2.2 above.2.2⟩

theorem beq_iff (left right : Price) :
    (left == right) = true ↔
      left.isNaN = false ∧ right.isNaN = false ∧ left.rank = right.rank := by
  show (!left.isNaN && !right.isNaN && left.rank == right.rank) = true ↔ _
  simp [and_assoc]

/-- A price that is a number equals itself. -/
theorem beq_self (price : Price) (number : price.isNaN = false) : (price == price) = true :=
  (beq_iff price price).mpr ⟨number, number, rfl⟩

end Price

end AuctionHouse
