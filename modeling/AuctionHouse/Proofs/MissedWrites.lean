import Mathlib.Algebra.Order.BigOperators.Group.List
import Mathlib.Algebra.Order.Group.Int
import AuctionHouse.Proofs.FingerprintRound
import AuctionHouse.Proofs.Numbering
import AuctionHouse.Proofs.SessionPrices

/-!
# Missed writes stay visible

On a replica that numbers its auctions from one on, and to which auctions are given at amounts and
bids under names, every change weighs more than nothing: its number or its name does, and its prices
never weigh less than nothing, since a bid beats an amount.  So the fingerprint of a replica that
has missed changes is another one than that of a replica that has made them, as long as what was
missed weighs less than the fingerprint takes to go once around, and a fingerprint round tells the
two apart.
-/

namespace AuctionHouse

/-! ## The weight of an amount -/

namespace Price

variable {price : Price}

theorem toNat_bits_ofParts {magnitude : Nat} (bounded : magnitude < 1 <<< 63) (negative : Bool) :
    (ofParts negative magnitude).bits.toNat = (if negative then 1 <<< 63 else 0) + magnitude := by
  have width : (2 : Nat) ^ 64 = 2 * (1 <<< 63) := by decide
  have fits : (if negative then 1 <<< 63 else 0) + magnitude < 2 ^ 64 := by
    split <;> omega
  rw [ofParts, UInt64.toNat_ofNat_of_lt' fits]

theorem isNegative_ofParts {magnitude : Nat} (bounded : magnitude < 1 <<< 63) (negative : Bool) :
    (ofParts negative magnitude).isNegative = negative := by
  rw [isNegative, toNat_bits_ofParts bounded]
  cases negative with
  | true => simp
  | false => simpa using bounded

/-- Only the negative zero is an amount with a sign. -/
theorem IsAmount.magnitude_eq_zero (amount : price.IsAmount) (negative : price.isNegative = true) :
    price.magnitude = 0 := by
  by_contra nonzero
  refine amount.nonneg ⟨amount.number, by decide, ?_⟩
  have origin : zero.rank = 0 := by decide
  rw [rank, if_pos negative, origin]
  omega

theorem IsAmount.signedUnits_hundredfold_nonneg (amount : price.IsAmount) :
    0 ≤ price.hundredfold.signedUnits := by
  rw [hundredfold, if_neg (Bool.eq_false_iff.mp amount.number)]
  cases sign : price.isNegative with
  | true =>
      have nothing : price.units = 0 := by
        rw [units, amount.magnitude_eq_zero sign]
        rfl
      rw [nothing]
      decide +kernel
  | false =>
      have bounded : nearestMagnitude (100 * price.units) 1 < 1 <<< 63 :=
        (Nat.min_le_left _ _).trans_lt (by decide)
      rw [signedUnits, isNegative_ofParts bounded]
      exact Int.natCast_nonneg _

/-- An amount does not weigh less than nothing. -/
theorem IsAmount.hundredths_nonneg (amount : price.IsAmount) : 0 ≤ price.hundredths := by
  rw [hundredths, if_neg (Bool.eq_false_iff.mp amount.number), clampToWord]
  have whole : 0 ≤ price.hundredfold.floor :=
    Int.ediv_nonneg amount.signedUnits_hundredfold_nonneg (Int.natCast_nonneg _)
  exact le_max_of_le_right (le_min (by decide) whole)

end Price

theorem Auction.weight_nonneg {auction : Auction} (current : auction.currentPrice.IsAmount)
    (reserve : auction.reservePrice.IsAmount) : 0 ≤ auction.weight := by
  refine List.sum_nonneg ?_
  simp [weightTerms, textWeight_nonneg, current.hundredths_nonneg, reserve.hundredths_nonneg]

/-! ## What is given to a replica -/

/-- A request that weighs something wherever it is carried out: an auction is opened without a bid
and at two amounts, and a bid names somebody. -/
def Request.Weighty : Request → Prop
  | .addAuction auction => ∃ owner startPrice description reservePrice,
      auction = .unbid owner startPrice description reservePrice ∧
        startPrice.IsAmount ∧ reservePrice.IsAmount
  | .placeBid _ _ name email => 0 < textWeight name + textWeight email
  | .fingerprint | .removeAuction _ _ | .listings => True

namespace Replica

variable {replica : Replica} {request : Request}

/-- Auctions are numbered from one on, and what has to be beaten are amounts. -/
structure Positive (replica : Replica) : Prop where
  position : 1 ≤ replica.nextId
  number {id : AuctionId} {auction : Auction}
    (listed : replica.auctions.find? id = some auction) : 1 ≤ id
  amount {id : AuctionId} {auction : Auction}
    (listed : replica.auctions.find? id = some auction) : auction.currentPrice.IsAmount

theorem positive_fresh {firstId : AuctionId} (above : 1 ≤ firstId) (probeLimit : UInt32) :
    (fresh firstId probeLimit).Positive :=
  ⟨above, nofun, nofun⟩

/-- A bid beats an amount, and so it is one; and no search goes below one. -/
theorem Positive.serve (positive : replica.Positive) (weighty : request.Weighty) :
    (replica.serve request).2.Positive := by
  have advances := replica.advances_serve request
  have position : 1 ≤ (replica.serve request).2.nextId :=
    UInt32.le_trans positive.position advances.position
  refine ⟨position, fun {id auction} listed => ?_, fun {id auction} listed => ?_⟩
  · rcases advances.live (Catalogue.contains_of_find? listed) with old | rfl
    · obtain ⟨held, found⟩ := Option.isSome_iff_exists.mp old
      exact positive.number found
    · exact position
  · rcases mem_serve ((Catalogue.find?_eq_some_iff _ id auction).mp listed) with old | rfl |
      ⟨held, amount, name, email, old, beats, -, rfl⟩
    · exact positive.amount ((Catalogue.find?_eq_some_iff _ id auction).mpr old)
    · obtain ⟨owner, startPrice, description, reservePrice, rfl, start, -⟩ := weighty
      exact start
    · have found := (Catalogue.find?_eq_some_iff _ id held).mpr old
      exact (positive.amount found).of_lt beats

theorem Positive.afterRequests (positive : replica.Positive) {requests : List Request}
    (weighty : ∀ request ∈ requests, request.Weighty) :
    (replica.afterRequests requests).Positive := by
  induction requests generalizing replica with
  | nil => exact positive
  | cons request later induction =>
      obtain ⟨first, others⟩ := List.forall_mem_cons.mp weighty
      exact induction (positive.serve first) others

/-! ## What is carried out -/

theorem CarriesOut.weight_pos {reply : Reply} {change : Change} {after : Replica}
    (carried : replica.CarriesOut request reply change after) (positive : replica.Positive)
    (weighty : request.Weighty) : 0 < change.weight := by
  have numbered {id : AuctionId} (least : 1 ≤ id) : (0 : Int) < id.toNat :=
    Int.natCast_pos.mpr (UInt32.le_iff_toNat_le.mp least)
  cases carried with
  | @addition _ _ above =>
      obtain ⟨owner, startPrice, description, reservePrice, rfl, start, reserve⟩ := weighty
      exact Int.add_pos_of_nonneg_of_pos (Auction.weight_nonneg start reserve)
        (numbered (UInt32.le_trans positive.position above))
  | @removal requester _ _ listed =>
      exact Int.add_pos_of_nonneg_of_pos (textWeight_nonneg requester)
        (numbered (positive.number listed))
  | @bid _ amount _ _ _ listed beats =>
      have raised : 0 ≤ amount.hundredths :=
        ((positive.amount listed).of_lt beats).hundredths_nonneg
      rw [Change.weight, Int.add_assoc]
      exact Int.add_pos_of_nonneg_of_pos raised weighty

/-- Whatever is answered as a change weighs something. -/
theorem Positive.weight_pos (positive : replica.Positive) (weighty : request.Weighty)
    {change : Change}
    (changes : Exchange.change? (request, (replica.serve request).1) = some change) :
    0 < change.weight := by
  cases served : (replica.serve request).1 with
  | error overflow => simp [served, Exchange.change?] at changes
  | ok reply =>
      rw [served] at changes
      exact (carriesOut_of_change served changes).weight_pos positive weighty

theorem Positive.changes_pos (positive : replica.Positive) {requests : List Request}
    (weighty : ∀ request ∈ requests, request.Weighty) :
    ∀ change ∈ Exchange.changes (replica.exchanges requests), 0 < change.weight := by
  induction requests generalizing replica with
  | nil => simp [exchanges, Exchange.changes]
  | cons request later induction =>
      intro change among
      obtain ⟨first, others⟩ := List.forall_mem_cons.mp weighty
      obtain ⟨exchange, isExchange, changes⟩ := List.mem_filterMap.mp among
      rcases List.mem_cons.mp isExchange with rfl | isLater
      · exact positive.weight_pos first changes
      · exact induction (positive.serve first) others change
          (List.mem_filterMap.mpr ⟨exchange, isLater, changes⟩)

/-- The fingerprint moves on with what is carried out, unless it goes once around. -/
theorem Positive.fingerprint_ne (positive : replica.Positive) {requests : List Request}
    (weighty : ∀ request ∈ requests, request.Weighty)
    (changed : Exchange.changes (replica.exchanges requests) ≠ [])
    (light : ((Exchange.changes (replica.exchanges requests)).map Change.weight).sum < 2 ^ 64) :
    replica.fingerprint ≠ (replica.afterRequests requests).fingerprint := by
  have heavy : 0 < ((Exchange.changes (replica.exchanges requests)).map Change.weight).sum := by
    refine List.sum_pos _ (fun weight among => ?_) (by simpa using changed)
    obtain ⟨change, isChange, rfl⟩ := List.mem_map.mp among
    exact positive.changes_pos weighty change isChange
  rw [replica.fingerprint_afterRequests]
  exact (Fingerprint.add_ne_self heavy light).symm

end Replica

/-! ## The round that finds it -/

namespace Cluster

/-- A fingerprint round finds one of two nodes among those that disagree, and if it is the
fingerprint of the second one that wins then it finds the first one. -/
structure TellsApart (cluster : Cluster) (me : Address) (first second : Address × Node) : Prop where
  either : first.1 ∈ (cluster.ballotRound me .fingerprint).1.dissenters ∨
    second.1 ∈ (cluster.ballotRound me .fingerprint).1.dissenters
  outvoted (wins : (cluster.ballotRound me .fingerprint).1.winner? =
      some (.fingerprint second.2.replica.fingerprint)) :
    first.1 ∈ (cluster.ballotRound me .fingerprint).1.dissenters

theorem Manned.tellsApart {cluster : Cluster} (manned : cluster.Manned) {me : Address}
    {first second : Address × Node} (firstReached : first ∈ cluster.reached me)
    (secondReached : second ∈ cluster.reached me)
    (differ : first.2.replica.fingerprint ≠ second.2.replica.fingerprint) :
    cluster.TellsApart me first second := by
  have storable : Request.fingerprint.Storable := trivial
  have round : (cluster.ballotRound me .fingerprint).1 = cluster.ballotOf me .fingerprint := by
    rw [manned.ballotRound_eq storable]
  obtain ⟨fingerprint, voters, wins⟩ := exists_fingerprint (List.ne_nil_of_mem firstReached)
  have isFirst := manned.mem_dissenters_fingerprint wins firstReached
  have isSecond := manned.mem_dissenters_fingerprint wins secondReached
  constructor
  · rw [round, isFirst, isSecond]
    by_contra neither
    obtain ⟨left, right⟩ := not_or.mp neither
    exact differ ((not_not.mp left).trans (not_not.mp right).symm)
  · intro outvoted
    rw [round, Ballot.winner?, wins] at outvoted
    obtain rfl := Reply.fingerprint.inj (Option.some.inj outvoted)
    rw [round, isFirst]
    exact differ

end Cluster

namespace Replica

/-- In a run from the start, with auctions numbered from one on, opened without a bid and at
amounts, and with bids that name somebody: a request that is answered as a change adds more than
nothing to the fingerprint, and any other one adds nothing.  So between two points of the run with
changes that do not weigh enough to go once around, the fingerprint has changed, and a fingerprint
round that reaches a node at either point tells them apart. -/
theorem missed_writes_visible {firstId : AuctionId} (above : 1 ≤ firstId) (probeLimit : UInt32)
    {requests : List Request} (weighty : ∀ request ∈ requests, request.Weighty) :
    (∀ before request after, requests = before ++ request :: after →
      let replica := (fresh firstId probeLimit).afterRequests before
      match Exchange.change? (request, (replica.serve request).1) with
      | some change => 0 < change.weight ∧
          (replica.serve request).2.fingerprint = replica.fingerprint + .ofInt change.weight
      | none => (replica.serve request).2.fingerprint = replica.fingerprint) ∧
      ∀ before between after, requests = before ++ between ++ after →
        let behind := (fresh firstId probeLimit).afterRequests before
        let ahead := behind.afterRequests between
        let missed := Exchange.changes (behind.exchanges between)
        missed ≠ [] → (missed.map Change.weight).sum < 2 ^ 64 →
          behind.fingerprint ≠ ahead.fingerprint ∧
            ∀ (cluster : Cluster) (me : Address), cluster.Manned →
              ∀ slow ∈ cluster.reached me, ∀ quick ∈ cluster.reached me,
                slow.2.replica.snapshot = behind.snapshot →
                quick.2.replica.snapshot = ahead.snapshot →
                cluster.TellsApart me slow quick := by
  have start := positive_fresh above probeLimit
  constructor
  · rintro before request after rfl replica
    have positive : replica.Positive := start.afterRequests fun other among =>
      weighty other (List.mem_append_left _ among)
    have first : request.Weighty := weighty request (by simp)
    have effect := replica.fingerprint_serve_eq request
    cases changes : Exchange.change? (request, (replica.serve request).1) with
    | some change =>
        rw [changes] at effect
        exact ⟨positive.weight_pos first changes, effect⟩
    | none =>
        rw [changes] at effect
        exact effect
  · rintro before between after rfl behind ahead missed changed light
    have positive : behind.Positive := start.afterRequests fun other among =>
      weighty other (List.mem_append_left _ (List.mem_append_left _ among))
    have differ : behind.fingerprint ≠ ahead.fingerprint :=
      positive.fingerprint_ne
        (fun other among => weighty other (List.mem_append_left _ (List.mem_append_right _ among)))
        changed light
    refine ⟨differ, fun cluster me manned slow isSlow quick isQuick late current => ?_⟩
    have missing : slow.2.replica.fingerprint = behind.fingerprint :=
      congrArg Snapshot.fingerprint late
    have complete : quick.2.replica.fingerprint = ahead.fingerprint :=
      congrArg Snapshot.fingerprint current
    refine manned.tellsApart isSlow isQuick ?_
    rw [missing, complete]
    exact differ

/-- A lamp is offered. -/
def offer : Request := .addAuction (.unbid "Ann" ⟨0⟩ "Lamp" ⟨0⟩)

/-- Ten is bid for the lamp. -/
def tenner : Request := .placeBid 1000 ⟨0x4024000000000000⟩ "Bob" "bob@example.com"

/-- A replica with the lamp. -/
def offering : Replica := (fresh 1000 5000).afterRequests [offer]

/-- Three nodes of which the last one has missed the bid. -/
def lagging : Cluster :=
  Cluster.drifted.revise (fun node =>
    node.replica.restore (if node.address = ⟨.multicast, 6⟩ then offering.snapshot
      else (offering.afterRequests [tenner]).snapshot)) []

theorem manned_lagging : lagging.Manned :=
  (Cluster.orderly_drifted.revise (fun node _ => node.replica.probeLimit_restore _) []).manned

/-- The fingerprint round finds the node that has missed the bid. -/
theorem missed_writes_visible_lagging :
    (∀ request ∈ [offer, tenner], request.Weighty) ∧
      offering.fingerprint ≠ (offering.afterRequests [tenner]).fingerprint ∧
      ⟨.rpc, 7⟩ ∈ (lagging.ballotRound ⟨.multicast, 1⟩ .fingerprint).1.dissenters := by
  have weighty : ∀ request ∈ [offer, tenner], request.Weighty := by
    rw [List.forall_mem_cons, List.forall_mem_singleton]
    refine ⟨⟨"Ann", ⟨0⟩, "Lamp", ⟨0⟩, rfl, ⟨by decide, by decide⟩, ⟨by decide, by decide⟩⟩, ?_⟩
    change 0 < textWeight "Bob" + textWeight "bob@example.com"
    decide +kernel
  obtain ⟨slow, isSlow, address, late⟩ : ∃ entry ∈ lagging.reached ⟨.multicast, 1⟩,
      entry.1 = ⟨.rpc, 7⟩ ∧ entry.2.replica.snapshot = offering.snapshot := by
    decide +kernel
  obtain ⟨quick, isQuick, current⟩ : ∃ entry ∈ lagging.reached ⟨.multicast, 1⟩,
      entry.2.replica.snapshot = (offering.afterRequests [tenner]).snapshot := by
    decide +kernel
  have wins : (lagging.ballotRound ⟨.multicast, 1⟩ .fingerprint).1.winner? =
      some (.fingerprint (offering.afterRequests [tenner]).fingerprint) := by
    decide +kernel
  have begun : (fresh 1000 5000).afterRequests [offer] = offering := rfl
  obtain ⟨differ, found⟩ :=
    (missed_writes_visible (by decide : (1 : AuctionId) ≤ 1000) 5000 weighty).2
      [offer] [tenner] [] rfl (by decide +kernel) (by decide +kernel)
  rw [begun] at differ found
  have apart := found lagging ⟨.multicast, 1⟩ manned_lagging slow isSlow quick isQuick late current
  have equal : (offering.afterRequests [tenner]).fingerprint = quick.2.replica.fingerprint :=
    congrArg Snapshot.fingerprint current.symm
  rw [equal] at wins
  exact ⟨weighty, differ, address ▸ apart.outvoted wins⟩

end Replica

end AuctionHouse
