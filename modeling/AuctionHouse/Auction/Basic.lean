import AuctionHouse.Price.Text

/-!
# Auctions

An auction is known by a number and holds two prices and four texts.  The description, the owner
and the reserve price are fixed when it is opened; the current price and the bidder change with
each bid that beats the current price.  Closing it tells whether it was sold: the reserve has to be
beaten, not only met.
-/

namespace AuctionHouse

/-- The number that an auction is known by. -/
abbrev AuctionId := UInt32

/-- An auction.  `==` compares prices as numbers, equality compares their patterns. -/
structure Auction where
  /-- The start price at first, later the highest bid. -/
  currentPrice : Price
  /-- The price that a sale has to beat. -/
  reservePrice : Price
  /-- What is for sale. -/
  description : String
  /-- Who may close the auction. -/
  owner : String
  /-- Who has bid the current price. -/
  bidderName : String
  /-- How to reach that bidder. -/
  bidderEmail : String
deriving DecidableEq, BEq

/-- The bidder's name as long as nobody has bid. -/
def noBidder : String := "***No one***"

/-- The bidder's address as long as nobody has bid, or if none is on record. -/
def noEmail : String := "***No Email***"

/-- What came of a bid. -/
inductive BidOutcome where
  /-- The bid is now the current price. -/
  | accepted
  /-- The bid does not beat the current price. -/
  | tooLow
  /-- There is no auction with the number given. -/
  | noSuchAuction
deriving DecidableEq

/-- What came of closing an auction.  `==` compares prices as numbers. -/
inductive CloseOutcome where
  /-- The reserve was beaten. -/
  | sold (winnerName winnerEmail : String) (finalPrice : Price)
  /-- The reserve was not beaten. -/
  | reserveNotMet (reserve finalPrice : Price)
  /-- There is no such auction, or it is somebody else's; which of the two is not told. -/
  | notPermittedOrAbsent (id : AuctionId)
deriving DecidableEq, BEq

namespace Auction

/-- An auction on which nobody has bid. -/
def unbid (owner : String) (startPrice : Price) (description : String) (reservePrice : Price) :
    Auction :=
  { currentPrice := startPrice, reservePrice, description, owner
    bidderName := noBidder, bidderEmail := noEmail }

/-- The auction with the bid recorded. -/
def withBid (auction : Auction) (amount : Price) (name email : String) : Auction :=
  { auction with currentPrice := amount, bidderName := name, bidderEmail := email }

/-- What closing the auction amounts to. -/
def conclude (auction : Auction) : CloseOutcome :=
  if auction.reservePrice < auction.currentPrice then
    .sold auction.bidderName auction.bidderEmail auction.currentPrice
  else
    .reserveNotMet auction.reservePrice auction.currentPrice

end Auction

/-- The name of the outcome. -/
def BidOutcome.name : BidOutcome → String
  | .accepted => "Accepted"
  | .tooLow => "TooLow"
  | .noSuchAuction => "NoSuchAuction"

/-- The message to the owner. -/
def CloseOutcome.text : CloseOutcome → String
  | .sold winnerName winnerEmail _ =>
    "[Auction Closed]\nThe winner is: " ++ winnerName ++ " with email: " ++ winnerEmail
  | .reserveNotMet reserve finalPrice =>
    "[Auction Closed]\nThis auction failed to meet its reserved price of " ++ reserve.plain ++
      " with highest bid " ++ finalPrice.plain
  | .notPermittedOrAbsent id =>
    "You can't remove auction with auctionID " ++ toString id.toNat ++
      ". This may be because it does not exist, has already been removed or you don't own it."

end AuctionHouse
