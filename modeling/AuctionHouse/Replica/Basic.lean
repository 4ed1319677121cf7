import AuctionHouse.Auction.Listing
import AuctionHouse.Catalogue
import AuctionHouse.Fingerprint

/-!
# Replicas

A replica holds the auctions, the number at which the search for a free number begins, and the
fingerprint of all it has done.  These three are its snapshot: what another replica needs to take
its place.  Every operation returns its answer together with the replica as it leaves it.  The one
way to fail is an overflow, as a rule while a weight is added up; a replica then keeps what was
changed before the sum was begun, which is why the state comes with the failure as well.
-/

namespace AuctionHouse

/-- A sum left the range of a word. -/
inductive Overflow where
  /-- The only one that is told: a weight was added up, or the rows of a seed file were counted. -/
  | weight
deriving DecidableEq

/-- The state of a replica.  `==` compares prices as numbers. -/
structure Snapshot where
  /-- Where the search for a free number begins: the number issued last, if any was. -/
  nextId : AuctionId
  /-- The open auctions. -/
  auctions : Catalogue Auction
  /-- The trace of all changes. -/
  fingerprint : Fingerprint
deriving DecidableEq, BEq

/-- A replica. -/
structure Replica extends Snapshot where
  /-- After passing this many taken numbers the search for a free one is given up. -/
  probeLimit : UInt32
deriving DecidableEq

/-- Looks for a free number from the given one on, past at most `budget` taken ones.  The answer is
whether one was found, and the number at which the search ended. -/
def Catalogue.probe (auctions : Catalogue Auction) (id : AuctionId) : Nat → Bool × AuctionId
  | 0 => (!auctions.contains id, id)
  | budget + 1 =>
    if auctions.contains id then
      if id.toNat + 1 < UInt32.size then auctions.probe (id + 1) budget else (false, id)
    else
      (true, id)

namespace Replica

/-- A replica that has done nothing yet. -/
def fresh (firstId : AuctionId) (probeLimit : UInt32) : Replica :=
  { nextId := firstId, auctions := .empty, fingerprint := 0, probeLimit }

/-- Enters an auction under the next free number; there is no number when the search for it is
given up.  The search position is kept in any case. -/
def add (replica : Replica) (auction : Auction) : Except Overflow (Option AuctionId) × Replica :=
  let (found, id) := replica.auctions.probe replica.nextId replica.probeLimit.toNat
  let moved := { replica with nextId := id }
  if found then
    match moved.fingerprint.record? (.insert id auction) with
    | some fingerprint =>
      (.ok (some id), { moved with auctions := moved.auctions.insert id auction, fingerprint })
    | none => (.error .weight, moved)
  else
    (.ok none, moved)

/-- Takes out an auction if the requester owns it. -/
def remove (replica : Replica) (requester : String) (id : AuctionId) :
    Except Overflow (Option Auction) × Replica :=
  match replica.auctions.find? id with
  | some auction =>
    if auction.owner = requester then
      match replica.fingerprint.record? (.remove id requester) with
      | some fingerprint =>
        (.ok (some auction), { replica with auctions := replica.auctions.erase id, fingerprint })
      | none => (.error .weight, replica)
    else
      (.ok none, replica)
  | none => (.ok none, replica)

/-- Records a bid if it beats the current price.  The auction is changed before the weight of the
bid is added up. -/
def bid (replica : Replica) (id : AuctionId) (amount : Price) (name email : String) :
    Except Overflow BidOutcome × Replica :=
  match replica.auctions.find? id with
  | some auction =>
    if auction.currentPrice < amount then
      let raised :=
        { replica with auctions := replica.auctions.insert id (auction.withBid amount name email) }
      match raised.fingerprint.record? (.bid amount name email) with
      | some fingerprint => (.ok .accepted, { raised with fingerprint })
      | none => (.error .weight, raised)
    else
      (.ok .tooLow, replica)
  | none => (.ok .noSuchAuction, replica)

/-- The table of all open auctions. -/
def listings (replica : Replica) : String := Listing.text replica.auctions.rows

/-- The state that another replica can take over. -/
def snapshot (replica : Replica) : Snapshot := replica.toSnapshot

/-- The replica with its state replaced. -/
def restore (replica : Replica) (snapshot : Snapshot) : Replica :=
  { replica with toSnapshot := snapshot }

/-- How many auctions are open. -/
def size (replica : Replica) : Nat := replica.auctions.size

@[simp]
theorem snapshot_restore (replica : Replica) (snapshot : Snapshot) :
    (replica.restore snapshot).snapshot = snapshot := rfl

@[simp]
theorem probeLimit_restore (replica : Replica) (snapshot : Snapshot) :
    (replica.restore snapshot).probeLimit = replica.probeLimit := rfl

end Replica

end AuctionHouse
