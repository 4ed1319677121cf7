import AuctionHouse.Proofs.PrefixCode
import AuctionHouse.Proofs.Round

/-!
# Taking over a state

A replica that takes over the state of another one, as it arrives over the wire, cannot be told from
it any more: the snapshot and the limit of the search for free numbers are all that a replica ever
looks at.  The limit is not part of the snapshot; all replicas have it from their settings.
-/

namespace AuctionHouse.Replica

/-- What is seen of a replica that serves requests: every answer, and the state it is given in. -/
def transcript (replica : Replica) : List Request → List (Except Overflow Reply × Snapshot)
  | [] => []
  | request :: later =>
    let (answer, after) := replica.serve request
    (answer, after.snapshot) :: after.transcript later

/-- A state that has arrived is the one that was handed over, and the replica that takes it over
goes on like the one that handed it over, whatever is asked of them. -/
theorem transcript_of_transmit {giving taking : Replica} (texts : giving.snapshot.Storable)
    (limit : taking.probeLimit = giving.probeLimit) :
    ∃ received, Wire.transmit giving.snapshot = .ok received ∧
      (taking.restore received).snapshot = giving.snapshot ∧
      ∀ requests, (taking.restore received).transcript requests = giving.transcript requests := by
  have arrives := Wire.transmit_of_survives (Wire.survives_snapshot texts)
  refine ⟨giving.snapshot, arrives, rfl, fun requests => ?_⟩
  have same : taking.restore giving.snapshot = giving := eq_of_snapshot rfl limit
  rw [same]

/-- The one price on record may be no number, and the search for numbers may stand at its end. -/
theorem transcript_of_transmit_priceless :
    let giving : Replica := { Snapshot.priceless with probeLimit := 5000 }
    let taking := Replica.fresh 1000 5000
    giving.snapshot.Storable ∧ taking.probeLimit = giving.probeLimit ∧
      ∃ received, Wire.transmit giving.snapshot = .ok received ∧
        (taking.restore received).snapshot = giving.snapshot ∧
        ∀ requests, (taking.restore received).transcript requests = giving.transcript requests :=
  ⟨Snapshot.storable_priceless, rfl, transcript_of_transmit Snapshot.storable_priceless rfl⟩

end AuctionHouse.Replica
