import AuctionHouse.Auction.Basic
import AuctionHouse.Text.Column

/-!
# The table of auctions

What bidders see: number, highest bid, bidder and description of each auction, one row each,
between ruled lines.  Reserve prices, owners and addresses are not shown.
-/

namespace AuctionHouse.Listing

/-- The line above, between and below the rows. -/
def rule : String := String.ofList (List.replicate 78 '-')

/-- One line of the table. -/
def row (number bid name description : String) : String :=
  "|" ++ Text.leftAligned 10 number ++ "|" ++ Text.leftAligned 11 bid ++ "|" ++
    Text.leftAligned 12 name ++ "|" ++ Text.leftAligned 40 description ++ "|"

/-- The line that names the columns. -/
def header : String := row "Auction ID" "Highest Bid" "Name" "Description"

/-- The line of one auction. -/
def auctionRow (id : AuctionId) (auction : Auction) : String :=
  row (toString id.toNat) auction.currentPrice.withTwoPlaces auction.bidderName
    auction.description

/-- The lines of the table of at least one auction, in the order given. -/
def tableLines (auctions : List (AuctionId × Auction)) : List String :=
  [rule, header, rule] ++ auctions.map (fun entry => auctionRow entry.1 entry.2) ++ [rule]

/-- The whole text; every line of a table ends with a line feed. -/
def text (auctions : List (AuctionId × Auction)) : String :=
  if auctions.isEmpty then "There are no listings."
  else String.join ((tableLines auctions).map (· ++ "\n"))

end AuctionHouse.Listing
