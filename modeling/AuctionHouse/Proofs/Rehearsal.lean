import AuctionHouse.Demo
import AuctionHouse.Proofs.Sowing

/-!
# The demonstration on one replica

The requests of the demonstration, served one after the other by a replica that finds a number free.
The first auction gets this number, and as it is taken out in between the second one gets it again.
-/

namespace AuctionHouse

namespace Demo

/-- The second auction. -/
def lamp : Auction := .unbid seller (wholePrice 1).atLeastZero "lamp" (wholePrice 2).atLeastZero

/-- How to reach the bidder. -/
def email : String := standardAccounts.emailOrPlaceholder bidder

end Demo

/-! ## Request by request -/

namespace Replica

variable {replica : Replica} {id : AuctionId}

end Replica

end AuctionHouse
