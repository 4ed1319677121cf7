import AuctionHouse.Auction.Details
import AuctionHouse.Replica.Basic

/-!
# Requests and replies

What a replica can be asked and what it answers.  Negative answers are answers too, so that
replicas can be compared by them.
-/

namespace AuctionHouse

/-- What a replica is asked to do. -/
inductive Request where
  /-- To tell its fingerprint. -/
  | fingerprint
  /-- To enter an auction. -/
  | addAuction (auction : Auction)
  /-- To take out an auction on behalf of its owner. -/
  | removeAuction (requester : String) (id : AuctionId)
  /-- To record a bid. -/
  | placeBid (id : AuctionId) (amount : Price) (name email : String)
  /-- To show the table of auctions. -/
  | listings
deriving DecidableEq

/-- What a replica answers.  `==` compares prices as numbers. -/
inductive Reply where
  /-- The fingerprint. -/
  | fingerprint (value : Fingerprint)
  /-- The number of the new auction, if one was free. -/
  | added (id : Option AuctionId)
  /-- The auction that was taken out, if there was one that the requester owned. -/
  | removed (auction : Option Auction)
  /-- What came of the bid. -/
  | bid (outcome : BidOutcome)
  /-- The table of auctions. -/
  | listings (text : String)
deriving DecidableEq, BEq

/-- The kind of a request, without what it carries. -/
inductive Request.Kind where
  /-- For the fingerprint. -/
  | fingerprint
  /-- To enter an auction. -/
  | addAuction
  /-- To take out an auction. -/
  | removeAuction
  /-- To record a bid. -/
  | placeBid
  /-- For the table. -/
  | listings
deriving DecidableEq

/-- The kind of a request. -/
def Request.kind : Request → Request.Kind
  | .fingerprint => .fingerprint
  | .addAuction _ => .addAuction
  | .removeAuction _ _ => .removeAuction
  | .placeBid _ _ _ _ => .placeBid
  | .listings => .listings

/-- Answers a request; there is no reply when a weight cannot be added up. -/
def Replica.serve (replica : Replica) : Request → Except Overflow Reply × Replica
  | .fingerprint => (.ok (.fingerprint replica.fingerprint), replica)
  | .addAuction auction =>
    let (answer, after) := replica.add auction
    (answer.map .added, after)
  | .removeAuction requester id =>
    let (answer, after) := replica.remove requester id
    (answer.map .removed, after)
  | .placeBid id amount name email =>
    let (answer, after) := replica.bid id amount name email
    (answer.map .bid, after)
  | .listings => (.ok (.listings replica.listings), replica)

/-- An optional value in an operator's text. -/
def detailsOfOption : Option String → String
  | some text => "Some(" ++ text ++ ")"
  | none => "None"

/-- The reply with all that it carries, for the eyes of an operator. -/
def Reply.details : Reply → String
  | .fingerprint value => "Fingerprint(" ++ toString value.toInt ++ ")"
  | .added id => "Added(" ++ detailsOfOption (id.map fun number => toString number.toNat) ++ ")"
  | .removed auction => "Removed(" ++ detailsOfOption (auction.map Auction.details) ++ ")"
  | .bid outcome => "Bid(" ++ outcome.name ++ ")"
  | .listings text => "Listings(" ++ Text.quoted text ++ ")"

end AuctionHouse
