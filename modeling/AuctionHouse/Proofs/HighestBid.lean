import Mathlib.Data.List.Induction
import AuctionHouse.Proofs.AuctionLife

/-!
# The earliest of the highest bids

A bid is recorded if it beats the price, and then it is the price.  So after any number of bids on
an auction its price is the highest amount that was bid, if that beats the price it had, and the
bidder on record is the first one who bid it: the later ones bid no more.  This does not depend on
whether the bids could be accounted for.  What is not a number beats nothing and is beaten by
nothing; an auction with such a price stays as it is.
-/

namespace AuctionHouse

namespace Price

variable {low middle high : Price}

theorem lt_of_lt_of_beq (below : low < middle) (same : (middle == high) = true) : low < high := by
  obtain ⟨-, number, equal⟩ := (beq_iff middle high).mp same
  exact ⟨below.1, number, equal ▸ below.2.2⟩

/-- Of two numbers that differ one is below the other. -/
theorem beq_of_not_lt (isNumber : low.isNaN = false) (isNumber' : high.isNaN = false)
    (notBelow : ¬low < high) (notAbove : ¬high < low) : (low == high) = true := by
  refine (beq_iff low high).mpr ⟨isNumber, isNumber', ?_⟩
  have atLeast : ¬low.rank < high.rank := fun below => notBelow ⟨isNumber, isNumber', below⟩
  have atMost : ¬high.rank < low.rank := fun above => notAbove ⟨isNumber', isNumber, above⟩
  omega

end Price

/-! ## Bids -/

/-- What somebody offers. -/
structure Bid where
  /-- How much. -/
  amount : Price
  /-- By whom. -/
  name : String
  /-- How to reach them. -/
  email : String
deriving DecidableEq

namespace Bid

/-- The bid on the auction under a number. -/
def request (id : AuctionId) (bid : Bid) : Request := .placeBid id bid.amount bid.name bid.email

/-- The bid that wins among some: no other one is higher, and none before it is as high. -/
structure Wins (bids : List Bid) (winner : Bid) : Prop where
  number : winner.amount.isNaN = false
  greatest : ∀ other ∈ bids, ¬winner.amount < other.amount
  earliest : ∃ earlier later, bids = earlier ++ winner :: later ∧
    ∀ other ∈ earlier, (other.amount == winner.amount) = false

variable {bids : List Bid} {winner last : Bid}

theorem Wins.mem (wins : Wins bids winner) : winner ∈ bids := by
  obtain ⟨earlier, later, rfl, -⟩ := wins.earliest
  simp

/-- One bid more that is not higher changes nothing. -/
theorem Wins.snoc (wins : Wins bids winner) (noMore : ¬winner.amount < last.amount) :
    Wins (bids ++ [last]) winner where
  number := wins.number
  greatest other member := by
    rcases List.mem_append.mp member with old | new
    · exact wins.greatest other old
    · rw [List.mem_singleton.mp new]
      exact noMore
  earliest := by
    obtain ⟨earlier, later, rfl, different⟩ := wins.earliest
    exact ⟨earlier, later ++ [last], by simp, different⟩

/-- The last bid wins if it is higher than a price that none of the others is above. -/
theorem wins_of_last {price : Price} (bounded : ∀ other ∈ bids, ¬price < other.amount)
    (beats : price < last.amount) : Wins (bids ++ [last]) last where
  number := beats.2.1
  greatest other member := by
    rcases List.mem_append.mp member with old | new
    · exact fun above => bounded other old (Price.lt_trans beats above)
    · rw [List.mem_singleton.mp new]
      exact last.amount.lt_irrefl
  earliest := by
    refine ⟨bids, [], rfl, fun other member => Bool.eq_false_of_not_eq_true fun same => ?_⟩
    obtain ⟨number, number', equal⟩ := (Price.beq_iff _ _).mp same
    have back : (last.amount == other.amount) = true :=
      (Price.beq_iff _ _).mpr ⟨number', number, equal.symm⟩
    exact bounded other member (Price.lt_of_lt_of_beq beats back)

end Bid

namespace Auction

/-- The auction after a bid on it. -/
def offered (auction : Auction) (bid : Bid) : Auction :=
  if auction.currentPrice < bid.amount then auction.withBid bid.amount bid.name bid.email
  else auction

theorem offered_of_lt {auction : Auction} {bid : Bid} (beats : auction.currentPrice < bid.amount) :
    auction.offered bid = auction.withBid bid.amount bid.name bid.email :=
  if_pos beats

theorem offered_of_not_lt {auction : Auction} {bid : Bid}
    (beaten : ¬auction.currentPrice < bid.amount) : auction.offered bid = auction :=
  if_neg beaten

theorem afterRequest_request (auction : Auction) (id : AuctionId) (bid : Bid) :
    auction.afterRequest id (bid.request id) = auction.offered bid := by
  simp [Bid.request, afterRequest, offered]

/-- The auction after some bids on it, one after the other. -/
def afterBids (auction : Auction) (bids : List Bid) : Auction := bids.foldl offered auction

@[simp]
theorem afterBids_append (auction : Auction) (bids : List Bid) (last : Bid) :
    auction.afterBids (bids ++ [last]) = (auction.afterBids bids).offered last :=
  List.foldl_concat ..

/-- Either no bid beats the price and the auction is as it was, or it carries the winning bid. -/
theorem afterBids_cases (auction : Auction) (bids : List Bid) :
    ((∀ bid ∈ bids, ¬auction.currentPrice < bid.amount) ∧ auction.afterBids bids = auction) ∨
      ∃ winner, Bid.Wins bids winner ∧ auction.currentPrice < winner.amount ∧
        auction.afterBids bids = auction.withBid winner.amount winner.name winner.email := by
  induction bids using List.reverseRecOn with
  | nil => exact .inl ⟨by simp, rfl⟩
  | append_singleton bids last induction =>
      rw [afterBids_append]
      rcases induction with ⟨bounded, same⟩ | ⟨winner, wins, beats, raised⟩
      · rw [same]
        by_cases higher : auction.currentPrice < last.amount
        · exact .inr ⟨last, Bid.wins_of_last bounded higher, higher, offered_of_lt higher⟩
        · refine .inl ⟨fun bid member => ?_, offered_of_not_lt higher⟩
          rcases List.mem_append.mp member with old | new
          · exact bounded bid old
          · rw [List.mem_singleton.mp new]
            exact higher
      · rw [raised]
        by_cases higher : winner.amount < last.amount
        · exact .inr ⟨last, Bid.wins_of_last wins.greatest higher, Price.lt_trans beats higher,
            offered_of_lt higher⟩
        · exact .inr ⟨winner, wins.snoc higher, beats, offered_of_not_lt higher⟩

end Auction

/-! ## What a replica makes of bids -/

namespace Replica

variable {replica : Replica} {id : AuctionId} {auction : Auction}

theorem find?_afterBids (live : replica.auctions.find? id = some auction) (bids : List Bid) :
    (replica.afterRequests (bids.map (Bid.request id))).auctions.find? id =
      some (auction.afterBids bids) := by
  induction bids generalizing replica auction with
  | nil => exact live
  | cons bid rest induction =>
      have kept : bid.request id ≠ .removeAuction auction.owner id := nofun
      have raised := find?_serve_of_live live kept
      rw [Auction.afterRequest_request] at raised
      exact induction raised

/-- The earliest of the highest bids wins.  Whatever is bid on a live auction, it stays live.  If
its price is no number it stays as it is.  Otherwise it stays as it is if no bid beats its price,
and if one does, it carries the winning bid; and the same bids in another order lead to the same
price. -/
theorem highest_bid_wins (live : replica.auctions.find? id = some auction) (bids : List Bid) :
    ∃ held,
      (replica.afterRequests (bids.map (Bid.request id))).auctions.find? id = some held ∧
        (auction.currentPrice.isNaN = true → held = auction) ∧
        (auction.currentPrice.isNaN = false →
          ((∀ bid ∈ bids, ¬auction.currentPrice < bid.amount) → held = auction) ∧
            ((∃ bid ∈ bids, auction.currentPrice < bid.amount) →
              ∃ winner, Bid.Wins bids winner ∧
                held = auction.withBid winner.amount winner.name winner.email) ∧
            ∀ others : List Bid, others.Perm bids →
              ∃ other, (replica.afterRequests (others.map (Bid.request id))).auctions.find? id =
                  some other ∧
                (other.currentPrice == held.currentPrice) = true) := by
  refine ⟨_, find?_afterBids live bids, ?_⟩
  rcases auction.afterBids_cases bids with ⟨bounded, same⟩ | ⟨winner, wins, beats, raised⟩
  · rw [same]
    refine ⟨fun _ => rfl, fun number => ⟨fun _ => rfl, ?_, fun others reordered => ?_⟩⟩
    · rintro ⟨bid, member, beats⟩
      exact absurd beats (bounded bid member)
    · refine ⟨_, find?_afterBids live others, ?_⟩
      rcases auction.afterBids_cases others with ⟨-, same⟩ | ⟨winner, wins, beats, -⟩
      · rw [same]
        exact auction.currentPrice.beq_self number
      · exact absurd beats (bounded winner (reordered.mem_iff.mp wins.mem))
  · rw [raised]
    refine ⟨fun noNumber => ?_, fun _ => ⟨fun bounded => ?_, fun _ => ⟨winner, wins, rfl⟩,
      fun others reordered => ?_⟩⟩
    · rw [beats.1] at noNumber
      contradiction
    · exact absurd beats (bounded winner wins.mem)
    · refine ⟨_, find?_afterBids live others, ?_⟩
      rcases auction.afterBids_cases others with ⟨bounded, -⟩ | ⟨other, first, -, raised⟩
      · exact absurd beats (bounded winner (reordered.mem_iff.mpr wins.mem))
      · rw [raised]
        exact Price.beq_of_not_lt first.number wins.number
          (first.greatest winner (reordered.mem_iff.mpr wins.mem))
          (wins.greatest other (reordered.mem_iff.mp first.mem))

/-- Of two who bid the same the first one wins, and what is no number does not count. -/
theorem highest_bid_wins_tied :
    let ten : Price := ⟨0x4024000000000000⟩
    let bids : List Bid :=
      [⟨⟨0x7ff8000000000000⟩, "Eve", "eve@example.com"⟩, ⟨ten, "Bob", "bob@example.com"⟩,
        ⟨ten, "Zoe", "zoe@example.com"⟩]
    furnished.auctions.find? 1000 = some (.unbid "Ann" ⟨0⟩ "Lamp" ⟨0⟩) ∧
      ∃ held, (furnished.afterRequests (bids.map (Bid.request 1000))).auctions.find? 1000 =
          some held ∧
        held.bidderName = "Bob" ∧
        ∃ winner, Bid.Wins bids winner ∧
          held = Auction.withBid (.unbid "Ann" ⟨0⟩ "Lamp" ⟨0⟩) winner.amount winner.name
            winner.email := by
  intro ten bids
  have live : furnished.auctions.find? 1000 = some (.unbid "Ann" ⟨0⟩ "Lamp" ⟨0⟩) := by
    decide +kernel
  obtain ⟨held, found, -, result⟩ := highest_bid_wins live bids
  obtain ⟨-, sold, -⟩ := result (by decide)
  have bobs : (furnished.afterRequests (bids.map (Bid.request 1000))).auctions.find? 1000 =
      some (.withBid (.unbid "Ann" ⟨0⟩ "Lamp" ⟨0⟩) ten "Bob" "bob@example.com") := by
    decide +kernel
  refine ⟨live, held, found, ?_, sold ⟨_, List.mem_cons_of_mem _ List.mem_cons_self, by decide⟩⟩
  rw [Option.some.inj (found.symm.trans bobs)]
  rfl

end Replica

end AuctionHouse
