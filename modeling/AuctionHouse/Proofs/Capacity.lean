import AuctionHouse.Proofs.Numbering
import AuctionHouse.Proofs.Starting

/-!
# Numbers do not run out early

No number is live beyond the position of the search, whatever is served, and the same is true of a
state that is taken over.  Seeding keeps to this as long as there are no more rows than numbers up
to the position.  So from there on all numbers are free, the search ends at the position or right
behind it, and it is given up only where there is no further number.
-/

namespace AuctionHouse

namespace Catalogue

variable {auctions : Catalogue Auction} {id : AuctionId} {budget : Nat}

theorem probe_of_last (last : id.toNat = UInt32.size - 1) (taken : auctions.contains id = true) :
    (auctions.probe id budget).1 = false := by
  cases budget with
  | zero => simp [probe, taken]
  | succ budget =>
      have final : ¬id.toNat + 1 < UInt32.size := by omega
      rw [probe, if_pos taken, if_neg final]

/-- Where nothing is live beyond a number, a search from there that may pass one number is given up
only at the last one. -/
theorem probe_failed_iff (settled : ∀ other, auctions.contains other = true → other ≤ id)
    (budgeted : 1 ≤ budget) :
    (auctions.probe id budget).1 = false ↔
      id.toNat = UInt32.size - 1 ∧ auctions.contains id = true := by
  refine ⟨fun failed => ?_, fun ⟨last, taken⟩ => probe_of_last last taken⟩
  have bound : id.toNat < UInt32.size := id.toNat_lt_size
  have stop := toNat_probe_of_failed failed
  have live : auctions.contains (auctions.probe id budget).2 = true := by
    rw [contains_probe, failed, Bool.not_false]
  -- the search ends at a live number, and so it has not moved
  have stays := UInt32.le_iff_toNat_le.mp (settled _ live)
  have last : id.toNat = UInt32.size - 1 := by omega
  have here : (auctions.probe id budget).2 = id := UInt32.toNat_inj.mp (by omega)
  rw [here] at live
  exact ⟨last, live⟩

end Catalogue

namespace Replica

variable {replica : Replica}

/-- No number is live beyond the position of the search, which may pass one number at least. -/
structure Ample (replica : Replica) : Prop where
  probes : 1 ≤ replica.probeLimit
  settled (id : AuctionId) (held : replica.auctions.contains id = true) : id ≤ replica.nextId

theorem ample_fresh (firstId : AuctionId) {probeLimit : UInt32} (probes : 1 ≤ probeLimit) :
    (fresh firstId probeLimit).Ample :=
  ⟨probes, fun id held => by simp [fresh, Catalogue.contains] at held⟩

theorem Ample.serve (ample : replica.Ample) (request : Request) :
    (replica.serve request).2.Ample where
  probes := by
    rw [probeLimit_serve]
    exact ample.probes
  settled id held := by
    have advances := replica.advances_serve request
    rcases advances.live held with old | rfl
    · exact UInt32.le_trans (ample.settled id old) advances.position
    · exact UInt32.le_refl _

theorem Ample.enter (ample : replica.Ample) {auctions : List Auction}
    (few : auctions.length ≤ replica.nextId.toNat + 1) : (replica.enter 0 auctions).2.Ample where
  probes := by
    rw [probeLimit_enter]
    exact ample.probes
  settled id held := by
    rw [nextId_enter]
    rcases contains_of_enter held with old | ⟨place, inside, rfl⟩
    · exact ample.settled id old
    · have bound : replica.nextId.toNat < UInt32.size := replica.nextId.toNat_lt_size
      have value : (UInt32.ofNat place).toNat = place := UInt32.toNat_ofNat_of_lt' (by omega)
      rw [UInt32.zero_add, UInt32.le_iff_toNat_le, value]
      omega

theorem Ample.seed (ample : replica.Ample) {bytes : List UInt8}
    (few : ∀ auctions, Seed.read bytes = .ok auctions →
      auctions.length ≤ replica.nextId.toNat + 1) : (replica.seed bytes).2.Ample := by
  cases read : Seed.read bytes with
  | error fault =>
      rw [seed_of_error read]
      exact ample
  | ok auctions =>
      rw [seed_of_read read]
      exact ample.enter (few auctions read)

theorem Ample.restore (ample : replica.Ample) {giver : Replica} (giving : giver.Ample) :
    (replica.restore giver.snapshot).Ample :=
  ⟨ample.probes, giving.settled⟩

/-- What can become of a replica that may pass one number at least: it serves requests, it is seeded
from files with no more rows than there are numbers up to its position, and it takes over the states
of others of which the same is true. -/
inductive Grown : Replica → Prop
  | fresh (firstId : AuctionId) {probeLimit : UInt32} (probes : 1 ≤ probeLimit) :
      Grown (fresh firstId probeLimit)
  | serve {replica : Replica} (grown : Grown replica) (request : Request) :
      Grown (replica.serve request).2
  | seed {replica : Replica} (grown : Grown replica) (bytes : List UInt8)
      (few : ∀ auctions, Seed.read bytes = .ok auctions →
        auctions.length ≤ replica.nextId.toNat + 1) :
      Grown (replica.seed bytes).2
  | restore {replica giver : Replica} (grown : Grown replica) (giving : Grown giver) :
      Grown (replica.restore giver.snapshot)

theorem Grown.ample (grown : replica.Grown) : replica.Ample := by
  induction grown with
  | fresh firstId probes => exact ample_fresh firstId probes
  | serve _ request ample => exact ample.serve request
  | seed _ bytes few ample => exact ample.seed few
  | restore _ _ ample giving => exact ample.restore giving

/-- Numbers do not run out early.  No number is live beyond the position of the search, and an
auction gets no number only when the position is at the last number there is and that is live. -/
theorem Grown.capacity (grown : replica.Grown) :
    (∀ id, replica.auctions.contains id = true → id ≤ replica.nextId) ∧
      ∀ auction, (replica.add auction).1 = .ok none ↔
        replica.nextId.toNat = 2 ^ 32 - 1 ∧
          replica.auctions.contains replica.nextId = true := by
  have ample := grown.ample
  refine ⟨ample.settled, fun auction => ?_⟩
  rw [add_eq_none_iff]
  exact Catalogue.probe_failed_iff ample.settled (UInt32.le_iff_toNat_le.mp ample.probes)

/-- A replica that has taken over the state of another one, which had a row under number zero and
has given out the last number. -/
def brimful : Replica :=
  (fresh 1000 5000).restore
    ((((fresh 4294967295 1).seed [49, 44, 120, 44, 50]).2.serve
      (.addAuction (.unbid "Ann" ⟨0⟩ "Lamp" ⟨0⟩))).2).snapshot

/-- There no auction gets a number any more, and every live number is at most the last. -/
theorem Grown.capacity_brimful :
    brimful.Grown ∧ brimful.auctions.contains 0 = true ∧
      (0 : AuctionId) ≤ brimful.nextId ∧
      (brimful.add (.unbid "Eve" ⟨0⟩ "Rug" ⟨0⟩)).1 = .ok none := by
  have grown : brimful.Grown := by
    refine (Grown.fresh 1000 (by decide)).restore (.serve (.seed (.fresh _ (by decide)) _ ?_) _)
    intro auctions read
    have one : (Seed.read [49, 44, 120, 44, 50]).map List.length = .ok 1 := by decide +kernel
    rw [read] at one
    have length : auctions.length = 1 := Except.ok.inj one
    rw [length]
    decide
  have row : brimful.auctions.contains 0 = true := by decide +kernel
  obtain ⟨settled, exhausted⟩ := grown.capacity
  exact ⟨grown, row, settled 0 row, (exhausted _).mpr (by decide +kernel)⟩

end Replica

end AuctionHouse
