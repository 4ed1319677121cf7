import Mathlib.Algebra.BigOperators.Group.List.Basic
import AuctionHouse.Proofs.MissedWrites
import AuctionHouse.Proofs.TableSize

/-!
# Moderate requests are always accounted for

A sum of terms goes no further from zero, at any point, than the sizes of the terms add up to.  A
price that is no further from zero than ten quadrillion weighs a hundred times as much at most, as
rounding does not carry a number past a bound that is itself on the grid it is rounded to.  So a
request with such prices, and with texts that leave room for them, is never interrupted.  What the
fingerprint is at that point makes no difference, since it goes around without complaint.
-/

namespace AuctionHouse

/-! ## Rounding up to a bound -/

theorem div_le_roundHalfEven (numerator denominator : Nat) :
    numerator / denominator ≤ roundHalfEven numerator denominator := by
  simp only [roundHalfEven]
  split
  · exact Nat.le_refl _
  · split
    · exact Nat.le_succ _
    · exact Nat.le_add_right _ _

/-- Rounding to whole numbers does not carry past a whole number. -/
theorem roundHalfEven_le_of_le {numerator denominator bound : Nat}
    (within : numerator ≤ bound * denominator) : roundHalfEven numerator denominator ≤ bound := by
  rcases Nat.lt_or_ge (numerator / denominator) bound with below | reaches
  · exact (roundHalfEven_le numerator denominator).trans below
  · rcases Nat.eq_zero_or_pos denominator with rfl | positive
    · obtain rfl : numerator = 0 := by simpa using within
      simp [roundHalfEven]
    · have quotient : numerator / denominator = bound :=
        Nat.le_antisymm (Nat.div_le_of_le_mul (by rwa [Nat.mul_comm])) reaches
      have whole : numerator = bound * denominator :=
        Nat.le_antisymm within ((Nat.le_div_iff_mul_le positive).mp reaches)
      have nothing : numerator % denominator = 0 := by rw [whole, Nat.mul_mod_left]
      simp [roundHalfEven, quotient, nothing, positive]

namespace Price

theorem magnitude_ofParts {magnitude : Nat} (bounded : magnitude < 1 <<< 63) (negative : Bool) :
    (ofParts negative magnitude).magnitude = magnitude := by
  rw [Price.magnitude, toNat_bits_ofParts bounded]
  cases negative with
  | true => simpa using Nat.mod_eq_of_lt bounded
  | false => simpa using Nat.mod_eq_of_lt bounded

/-- The units of a price, read off the exponent and the fraction of its pattern. -/
theorem units_eq {price : Price} {exponent fraction : Nat}
    (pattern : price.magnitude = exponent * 2 ^ 52 + fraction) (proper : fraction < 2 ^ 52) :
    price.units =
      if exponent = 0 then fraction else (2 ^ 52 + fraction) <<< (exponent - 1) := by
  have size : (1 <<< 52 : Nat) = 2 ^ 52 := by decide
  have high : price.magnitude / 2 ^ 52 = exponent := by omega
  have low : price.magnitude % 2 ^ 52 = fraction := by omega
  rw [units, size, high, low]

/-- A significand at a place of the grid stands for itself times a power of two, even when rounding
has filled it up. -/
theorem units_ofParts {place significand : Nat} (negative : Bool)
    (normal : place = 0 ∨ 2 ^ 52 ≤ significand) (narrow : significand ≤ 2 ^ 53)
    (finite : place ≤ 2044) :
    (ofParts negative ((place <<< 52) + significand)).units = significand <<< place := by
  have top : (1 <<< 63 : Nat) = 2 ^ 63 := by decide
  rw [Nat.shiftLeft_eq place]
  have bounded : place * 2 ^ 52 + significand < 1 <<< 63 := by omega
  have magnitude := magnitude_ofParts bounded negative
  rcases Nat.lt_or_ge significand (2 ^ 52) with small | full
  · obtain rfl : place = 0 := by omega
    rw [units_eq magnitude small, if_pos rfl]
    rfl
  · rcases Nat.lt_or_eq_of_le narrow with below | filled
    · have pattern :
          place * 2 ^ 52 + significand = (place + 1) * 2 ^ 52 + (significand - 2 ^ 52) := by
        omega
      rw [units_eq (magnitude.trans pattern) (by omega), if_neg (Nat.succ_ne_zero place),
        Nat.add_sub_cancel, Nat.add_sub_cancel' full]
    · have pattern : place * 2 ^ 52 + significand = (place + 2) * 2 ^ 52 + 0 := by omega
      rw [units_eq (magnitude.trans pattern) (by decide), if_neg (Nat.succ_ne_zero _), filled,
        Nat.shiftLeft_eq, Nat.shiftLeft_eq, Nat.add_zero, Nat.add_succ_sub_one,
        Nat.pow_succ 2 place]
      omega

/-- The nearest price to a whole number of units is a multiple of a power of two. -/
theorem units_nearest {numerator : Nat} (negative : Bool) (moderate : numerator.log2 ≤ 2096) :
    (ofParts negative (nearestMagnitude numerator 1)).units =
      roundHalfEven numerator (1 <<< (numerator.log2 - 52)) <<< (numerator.log2 - 52) := by
  obtain ⟨place, isPlace⟩ : ∃ place, place = numerator.log2 - 52 := ⟨_, rfl⟩
  obtain ⟨significand, isSignificand⟩ : ∃ significand,
    significand = roundHalfEven numerator (1 <<< place) := ⟨_, rfl⟩
  have scale : (1 <<< place : Nat) = 2 ^ place := Nat.one_shiftLeft place
  have below : numerator < 2 ^ (numerator.log2 + 1) := Nat.lt_log2_self
  have narrow : significand ≤ 2 ^ 53 := by
    have wide : numerator ≤ 2 ^ (53 + place) :=
      below.le.trans (Nat.pow_le_pow_right (by decide) (by omega))
    rw [isSignificand, scale]
    exact roundHalfEven_le_of_le (by rwa [← Nat.pow_add])
  have normal : place = 0 ∨ 2 ^ 52 ≤ significand := by
    rcases Nat.eq_zero_or_pos place with isZero | positive
    · exact .inl isZero
    · have nonzero : numerator ≠ 0 := by
        rintro rfl
        simp at isPlace
        omega
      have enough : 2 ^ (52 + place) ≤ numerator := by
        have exponent : 52 + place = numerator.log2 := by omega
        rw [exponent]
        exact Nat.log2_self_le nonzero
      rw [Nat.pow_add] at enough
      rw [isSignificand, scale]
      exact .inr (((Nat.le_div_iff_mul_le (Nat.two_pow_pos place)).mpr enough).trans
        (div_le_roundHalfEven _ _))
  have finite : (place <<< 52) + significand ≤ infinityMagnitude := by
    have largest : infinityMagnitude = 2047 * 2 ^ 52 := by decide
    rw [Nat.shiftLeft_eq]
    omega
  have nearest : nearestMagnitude numerator 1 = (place <<< 52) + significand := by
    simp only [nearestMagnitude, Nat.div_one, ← isPlace, ← isSignificand]
    exact Nat.min_eq_right finite
  rw [nearest, units_ofParts negative normal narrow (by omega), ← isPlace, ← isSignificand]

/-- Rounding does not carry a number past a bound on a grid that is not finer than its own. -/
theorem units_nearest_le {numerator whole place : Nat} (negative : Bool)
    (within : numerator ≤ whole <<< place) (coarse : numerator.log2 ≤ 52 + place)
    (moderate : place ≤ 2044) :
    (ofParts negative (nearestMagnitude numerator 1)).units ≤ whole <<< place := by
  obtain ⟨shift, isShift⟩ : ∃ shift, shift = numerator.log2 - 52 := ⟨_, rfl⟩
  have split : whole <<< place = (whole <<< (place - shift)) <<< shift := by
    rw [← Nat.shiftLeft_add, Nat.sub_add_cancel (by omega)]
  have rounded : roundHalfEven numerator (1 <<< shift) ≤ whole <<< (place - shift) := by
    refine roundHalfEven_le_of_le (within.trans_eq ?_)
    rw [split, Nat.shiftLeft_eq _ shift, Nat.one_shiftLeft]
  rw [units_nearest negative (by omega), ← isShift, split, Nat.shiftLeft_eq (roundHalfEven _ _),
    Nat.shiftLeft_eq (whole <<< _)]
  exact Nat.mul_le_mul_right _ rounded

/-! ## The weight of a moderate price -/

/-- A pattern that is no number, or a number no further from zero than ten quadrillion. -/
def IsModerate (price : Price) : Prop :=
  price.isNaN = true ∨ price.units ≤ 10 ^ 16 * unitsPerOne

instance (price : Price) : Decidable price.IsModerate := inferInstanceAs (Decidable (_ ∨ _))

variable {price : Price}

theorem natAbs_signedUnits (price : Price) : price.signedUnits.natAbs = price.units := by
  rw [signedUnits]
  split
  · rw [Int.natAbs_neg, Int.natAbs_natCast]
  · rw [Int.natAbs_natCast]

/-- A hundred times ten quadrillion is a price, so the product of a moderate price is rounded to no
more. -/
theorem units_hundredfold_le (number : ¬price.isNaN = true)
    (moderate : price.units ≤ 10 ^ 16 * unitsPerOne) :
    price.hundredfold.units ≤ 10 ^ 18 * unitsPerOne := by
  have onGrid : 10 ^ 18 * unitsPerOne = 7812500000000000 <<< 1081 := by decide +kernel
  have bound : 100 * (10 ^ 16 * unitsPerOne) = 7812500000000000 <<< 1081 := by decide +kernel
  have short : 7812500000000000 <<< 1081 < 2 ^ (53 + 1081) :=
    shiftLeft_lt (by decide) (Nat.le_refl _)
  have within : 100 * price.units ≤ 7812500000000000 <<< 1081 :=
    bound ▸ Nat.mul_le_mul_left 100 moderate
  have coarse : (100 * price.units).log2 ≤ 52 + 1081 := by
    rcases Nat.eq_zero_or_pos (100 * price.units) with nothing | positive
    · rw [nothing]
      decide
    · have below := (Nat.log2_lt (by omega)).mpr (within.trans_lt short)
      omega
  rw [hundredfold, if_neg number, onGrid]
  exact units_nearest_le price.isNegative within coarse (by decide)

/-- A moderate price weighs no more than a hundred times ten quadrillion. -/
theorem IsModerate.natAbs_hundredths_le (moderate : price.IsModerate) :
    price.hundredths.natAbs ≤ 10 ^ 18 := by
  rw [hundredths]
  split
  · decide
  · rename_i number
    have rounded := units_hundredfold_le number (moderate.resolve_left number)
    rw [← natAbs_signedUnits] at rounded
    have positive : (0 : Int) < unitsPerOne := by decide +kernel
    have high : price.hundredfold.floor ≤ 10 ^ 18 := by
      refine Int.ediv_le_of_le_mul positive ?_
      push_cast
      omega
    have low : -10 ^ 18 ≤ price.hundredfold.floor := by
      refine Int.le_ediv_of_mul_le positive ?_
      omega
    have range : Int64.minValue.toInt ≤ -10 ^ 18 ∧ 10 ^ 18 ≤ Int64.maxValue.toInt := by decide
    rw [clampToWord]
    omega

end Price

/-! ## Sums of terms of limited size -/

theorem natAbs_sum_le (terms : List Int) : terms.sum.natAbs ≤ (terms.map Int.natAbs).sum := by
  induction terms with
  | nil => simp
  | cons term rest induction =>
      have apart := Int.natAbs_add_le term rest.sum
      rw [List.sum_cons, List.map_cons, List.sum_cons]
      omega

theorem fitsWord_of_natAbs_le {value : Int} (small : value.natAbs < 2 ^ 63) : fitsWord value := by
  have range : Int64.minValue.toInt = -2 ^ 63 ∧ Int64.maxValue.toInt = 2 ^ 63 - 1 := by decide
  rw [fitsWord, range.1, range.2]
  omega

/-- Terms whose sizes add up to less than the size of a word are added up without leaving it. -/
theorem checkedSum?_of_natAbs {start : Int} {terms : List Int}
    (small : start.natAbs + (terms.map Int.natAbs).sum < 2 ^ 63) :
    checkedSum? start terms = some (start + terms.sum) := by
  induction terms generalizing start with
  | nil => simp [checkedSum?]
  | cons term rest induction =>
      rw [List.map_cons, List.sum_cons] at small
      have sum := Int.natAbs_add_le start term
      have fits : fitsWord term ∧ fitsWord (start + term) :=
        ⟨fitsWord_of_natAbs_le (by omega), fitsWord_of_natAbs_le (by omega)⟩
      rw [checkedSum?, if_pos fits, induction (by omega), List.sum_cons, Int.add_assoc]

/-! ## Moderate requests -/

namespace Request

/-- The prices in a request. -/
def prices : Request → List Price
  | .addAuction auction => [auction.currentPrice, auction.reservePrice]
  | .placeBid _ amount _ _ => [amount]
  | .fingerprint | .removeAuction _ _ | .listings => []

/-- The texts in a request. -/
def texts : Request → List String
  | .addAuction auction =>
    [auction.bidderEmail, auction.bidderName, auction.description, auction.owner]
  | .removeAuction requester _ => [requester]
  | .placeBid _ _ name email => [name, email]
  | .fingerprint | .listings => []

/-- All prices are moderate, and all texts together weigh no more than half of what fits into a
word. -/
structure Moderate (request : Request) : Prop where
  prices : ∀ price ∈ request.prices, price.IsModerate
  texts : (request.texts.map textWeight).sum ≤ 2 ^ 62

/-- The changes that may come of a request: an auction may be entered under any number. -/
inductive MayMake : Request → Change → Prop
  | insert (id : AuctionId) (auction : Auction) : MayMake (.addAuction auction) (.insert id auction)
  | remove (id : AuctionId) (requester : String) :
      MayMake (.removeAuction requester id) (.remove id requester)
  | bid (id : AuctionId) (amount : Price) (name email : String) :
      MayMake (.placeBid id amount name email) (.bid amount name email)

variable {request : Request} {change : Change}

/-- What comes of a moderate request weighs less than what fits into a word. -/
theorem Moderate.sum_natAbs_lt (moderate : request.Moderate) (made : request.MayMake change) :
    (change.weightTerms.map Int.natAbs).sum < 2 ^ 63 := by
  obtain ⟨priced, worded⟩ := moderate
  have number (id : AuctionId) : id.toNat < 2 ^ 32 := id.toNat_lt_size
  cases made with
  | insert id auction =>
      have bound := number id
      have current := (priced auction.currentPrice (by simp [Request.prices])).natAbs_hundredths_le
      have reserve := (priced auction.reservePrice (by simp [Request.prices])).natAbs_hundredths_le
      have email := textWeight_nonneg auction.bidderEmail
      have name := textWeight_nonneg auction.bidderName
      have description := textWeight_nonneg auction.description
      have owner := textWeight_nonneg auction.owner
      simp only [Request.texts, List.map_cons, List.map_nil, List.sum_cons, List.sum_nil] at worded
      simp only [Change.weightTerms, Auction.weightTerms, List.cons_append, List.nil_append,
        List.map_cons, List.map_nil, List.sum_cons, List.sum_nil]
      omega
  | remove id requester =>
      have bound := number id
      have name := textWeight_nonneg requester
      simp only [Request.texts, List.map_cons, List.map_nil, List.sum_cons, List.sum_nil] at worded
      simp only [Change.weightTerms, List.map_cons, List.map_nil, List.sum_cons, List.sum_nil]
      omega
  | bid id amount name email =>
      have raised := (priced amount (by simp [Request.prices])).natAbs_hundredths_le
      have bidder := textWeight_nonneg name
      have address := textWeight_nonneg email
      simp only [Request.texts, List.map_cons, List.map_nil, List.sum_cons, List.sum_nil] at worded
      simp only [Change.weightTerms, List.map_cons, List.map_nil, List.sum_cons, List.sum_nil]
      omega

theorem Moderate.weight?_eq (moderate : request.Moderate) (made : request.MayMake change) :
    change.weight? = some change.weight := by
  rw [Change.weight?, checkedSum?_of_natAbs (by simpa using moderate.sum_natAbs_lt made),
    Int.zero_add, change.sum_weightTerms]

end Request

namespace Replica

/-- What is interrupted is a change that may come of the request and has no weight. -/
theorem Interrupted.exists_change {replica after : Replica} {request : Request}
    (interrupted : replica.Interrupted request after) :
    ∃ change, request.MayMake change ∧ change.weight? = none := by
  cases interrupted with
  | addition _ _ _ _ heavy => exact ⟨_, .insert _ _, heavy⟩
  | removal _ _ heavy => exact ⟨_, .remove _ _, heavy⟩
  | bid _ _ heavy => exact ⟨_, .bid _ _ _ _, heavy⟩

/-- A moderate request is answered, whatever the state.  No partial sum of what may come of it
leaves the range of a word, and it is accounted for whatever the fingerprint is. -/
theorem serve_of_moderate (replica : Replica) {request : Request} (moderate : request.Moderate) :
    (∃ reply, (replica.serve request).1 = .ok reply) ∧
      ∀ change, request.MayMake change →
        (∀ summed others, change.weightTerms = summed ++ others → fitsWord summed.sum) ∧
          ∀ fingerprint : Fingerprint,
            fingerprint.record? change = some (fingerprint + .ofInt change.weight) := by
  constructor
  · rcases replica.serve_cases request with ⟨reply, _, served, -⟩ | ⟨reply, served, -⟩ | ⟨-, cut⟩
    · exact ⟨reply, served⟩
    · exact ⟨reply, served⟩
    · obtain ⟨change, made, heavy⟩ := cut.exists_change
      rw [moderate.weight?_eq made] at heavy
      contradiction
  · intro change made
    refine ⟨fun summed others split => ?_, Fingerprint.record?_of_light (moderate.weight?_eq made)⟩
    have small := moderate.sum_natAbs_lt made
    rw [split, List.map_append, List.sum_append] at small
    have part := natAbs_sum_le summed
    exact fitsWord_of_natAbs_le (by omega)

/-- A replica whose fingerprint is the greatest there is. -/
def brink : Replica := { furnished with fingerprint := Int64.maxValue }

/-- An auction that starts at ten quadrillion, with a reserve price that is no number. -/
def castle : Auction := .unbid "Eve" ⟨0x4341c37937e08000⟩ "Castle" ⟨0x7ff8000000000000⟩

/-- It is entered, and the fingerprint goes around. -/
theorem serve_of_moderate_brink :
    (Request.addAuction castle).Moderate ∧
      (∃ reply, (brink.serve (.addAuction castle)).1 = .ok reply) ∧
      brink.fingerprint.record? (.insert 1001 castle) =
        some (brink.fingerprint + .ofInt (Change.insert 1001 castle).weight) ∧
      brink.fingerprint + .ofInt (Change.insert 1001 castle).weight < 0 := by
  have moderate : (Request.addAuction castle).Moderate := ⟨by decide +kernel, by decide +kernel⟩
  obtain ⟨answered, accounted⟩ := brink.serve_of_moderate moderate
  exact ⟨moderate, answered, (accounted _ (.insert 1001 castle)).2 brink.fingerprint,
    by decide +kernel⟩

end Replica

end AuctionHouse
