import AuctionHouse.Auction.Basic
import AuctionHouse.Text.Quoted

/-!
# An auction with all its fields

The text of an auction for the eyes of an operator: every field with its name, prices in detail
and texts in quotes.
-/

namespace AuctionHouse

/-- All fields of the auction. -/
def Auction.details (auction : Auction) : String :=
  "Auction \x7b current_price: " ++ auction.currentPrice.detailed ++
    ", reserve_price: " ++ auction.reservePrice.detailed ++
    ", description: " ++ Text.quoted auction.description ++
    ", owner: " ++ Text.quoted auction.owner ++
    ", bidder_name: " ++ Text.quoted auction.bidderName ++
    ", bidder_email: " ++ Text.quoted auction.bidderEmail ++ " \x7d"

end AuctionHouse
