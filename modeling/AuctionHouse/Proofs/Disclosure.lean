import AuctionHouse.Proofs.Independence

/-!
# What bidders cannot find out

The table shows the number of an auction, its price, who has bid it and what is for sale, and a bid
is compared with the price alone.  So whoever only bids and looks at the table cannot tell two
replicas apart that agree in these: owners, reserve prices and the addresses of bidders stay hidden,
and so do the fingerprint and the number that comes next.
-/

namespace AuctionHouse

namespace Catalogue

variable {value other : Type}

/-- The catalogue with something else in the place of every value. -/
def map (change : value → other) (catalogue : Catalogue value) : Catalogue other :=
  ⟨catalogue.rows.map fun row => (row.1, change row.2), List.pairwise_map.mpr catalogue.ascending⟩

theorem lookupRow_map (change : value → other) (id : AuctionId)
    (rows : List (AuctionId × value)) :
    lookupRow id (rows.map fun row => (row.1, change row.2)) = (lookupRow id rows).map change := by
  induction rows with
  | nil => rfl
  | cons row rest induction =>
      rw [List.map_cons, lookupRow, lookupRow, induction]
      split
      · rfl
      · split
        · rfl
        · rfl

theorem find?_map (change : value → other) (catalogue : Catalogue value) (id : AuctionId) :
    (catalogue.map change).find? id = (catalogue.find? id).map change :=
  lookupRow_map change id catalogue.rows

end Catalogue

/-! ## What is shown -/

/-- What is shown of an auction. -/
structure Showing where
  /-- The price to be beaten. -/
  price : Price
  /-- Who has bid it. -/
  bidderName : String
  /-- What is for sale. -/
  description : String
deriving DecidableEq

/-- What is shown of the auction. -/
def Auction.showing (auction : Auction) : Showing :=
  ⟨auction.currentPrice, auction.bidderName, auction.description⟩

@[simp]
theorem Auction.showing_withBid (auction : Auction) (amount : Price) (name email : String) :
    (auction.withBid amount name email).showing = ⟨amount, name, auction.description⟩ := rfl

/-- The table is made of nothing but numbers and what is shown of the auctions. -/
theorem Listing.text_congr {left right : List (AuctionId × Auction)}
    (same : left.map (fun row => (row.1, row.2.showing)) =
      right.map fun row => (row.1, row.2.showing)) : text left = text right := by
  have rows : left.map (fun row => auctionRow row.1 row.2) =
      right.map fun row => auctionRow row.1 row.2 := by
    have drawn := congrArg (List.map fun shown : AuctionId × Showing =>
      row (toString shown.1.toNat) shown.2.price.withTwoPlaces shown.2.bidderName
        shown.2.description) same
    rwa [List.map_map, List.map_map] at drawn
  have vacant : left.isEmpty = right.isEmpty := by
    have counted := congrArg List.isEmpty same
    rwa [List.isEmpty_map, List.isEmpty_map] at counted
  rw [text, text, tableLines, tableLines, rows, vacant]

namespace Replica

variable {left right : Replica} {request : Request}

/-- Under every number the same is shown, or nothing is there in both. -/
def LooksLike (left right : Replica) : Prop :=
  ∀ id, (left.auctions.find? id).map Auction.showing = (right.auctions.find? id).map Auction.showing

theorem looksLike_iff :
    left.LooksLike right ↔
      left.auctions.map Auction.showing = right.auctions.map Auction.showing := by
  constructor
  · intro alike
    refine Catalogue.ext_find? fun id => ?_
    rw [Catalogue.find?_map, Catalogue.find?_map]
    exact alike id
  · intro same id
    rw [← Catalogue.find?_map, ← Catalogue.find?_map, same]

theorem LooksLike.listings_eq (alike : left.LooksLike right) : left.listings = right.listings :=
  Listing.text_congr (congrArg Catalogue.rows (looksLike_iff.mp alike))

/-- After the same bid on what looks alike, it looks alike. -/
theorem LooksLike.insert_withBid (alike : left.LooksLike right) {id : AuctionId}
    {auction other : Auction} (listed : left.auctions.find? id = some auction)
    (listed' : right.auctions.find? id = some other) (amount : Price) (name email : String)
    (number : AuctionId) :
    ((left.auctions.insert id (auction.withBid amount name email)).find? number).map
        Auction.showing =
      ((right.auctions.insert id (other.withBid amount name email)).find? number).map
        Auction.showing := by
  have same := alike id
  rw [listed, listed'] at same
  have description : auction.description = other.description :=
    congrArg Showing.description (Option.some.inj same)
  rw [Catalogue.find?_insert, Catalogue.find?_insert]
  split
  · simp [description]
  · exact alike number

theorem LooksLike.bid (alike : left.LooksLike right) (id : AuctionId) (amount : Price)
    (name email : String) :
    (left.bid id amount name email).1 = (right.bid id amount name email).1 ∧
      (left.bid id amount name email).2.LooksLike (right.bid id amount name email).2 := by
  have same := alike id
  cases listed : left.auctions.find? id with
  | none =>
      rw [listed] at same
      have absent : right.auctions.find? id = none := Option.map_eq_none_iff.mp same.symm
      simp only [Replica.bid, listed, absent]
      exact ⟨trivial, alike⟩
  | some auction =>
      rw [listed] at same
      obtain ⟨other, listed', shown⟩ := Option.map_eq_some_iff.mp same.symm
      have price : other.currentPrice = auction.currentPrice := congrArg Showing.price shown
      simp only [Replica.bid, listed, listed', price, Fingerprint.record?]
      split
      · cases (Change.bid amount name email).weight? with
        | none => exact ⟨rfl, alike.insert_withBid listed listed' amount name email⟩
        | some weight => exact ⟨rfl, alike.insert_withBid listed listed' amount name email⟩
      · exact ⟨rfl, alike⟩

/-! ## What bidders do -/

theorem LooksLike.serve (alike : left.LooksLike right)
    (bidding : request.kind = .placeBid ∨ request.kind = .listings) :
    (left.serve request).1 = (right.serve request).1 ∧
      (left.serve request).2.LooksLike (right.serve request).2 := by
  cases request with
  | placeBid id amount name email =>
      obtain ⟨answers, remains⟩ := alike.bid id amount name email
      exact ⟨congrArg (Except.map Reply.bid) answers, remains⟩
  | listings => exact ⟨congrArg (Except.ok ∘ Reply.listings) alike.listings_eq, alike⟩
  | _ => simp [Request.kind] at bidding

/-- Bidders cannot tell replicas apart that look alike: whatever they bid and as often as they look,
they get the same replies or none in the same places, and what they leave looks alike again. -/
theorem hidden_from_bidders (alike : left.LooksLike right) {requests : List Request}
    (bidding : ∀ request ∈ requests, request.kind = .placeBid ∨ request.kind = .listings) :
    left.exchanges requests = right.exchanges requests ∧
      (left.afterRequests requests).LooksLike (right.afterRequests requests) := by
  induction requests generalizing left right with
  | nil => exact ⟨rfl, alike⟩
  | cons request later induction =>
      obtain ⟨first, others⟩ := List.forall_mem_cons.mp bidding
      obtain ⟨answers, remains⟩ := alike.serve first
      obtain ⟨same, after⟩ := induction remains others
      refine ⟨?_, after⟩
      rw [exchanges, exchanges, answers, same]

/-- A replica that looks like the one with the lamp, and differs from it in all that is hidden. -/
def disguised : Replica :=
  { fresh 7 1 with
    auctions := .insert .empty 1000
      { Auction.unbid "Eve" ⟨0⟩ "Lamp" ⟨0x7ff0000000000000⟩ with bidderEmail := "eve@example.com" }
    fingerprint := -1 }

/-- An accepted bid, one that is too low, one that is not accounted for and one on nothing are
answered alike by both, and then both show the same table. -/
theorem hidden_from_bidders_disguised :
    furnished.LooksLike disguised ∧
      (let requests : List Request :=
        [.placeBid 1000 ⟨0x4024000000000000⟩ "Bob" "bob@example.com",
          .placeBid 1000 ⟨0x4024000000000000⟩ "Zoe" "zoe@example.com", excessive,
          .placeBid 1001 ⟨0⟩ "Bob" "bob@example.com", .listings]
      (furnished.exchanges requests).map Prod.snd =
          [.ok (.bid .accepted), .ok (.bid .tooLow), .error .weight, .ok (.bid .noSuchAuction),
            .ok (.listings (furnished.serve excessive).2.listings)] ∧
        furnished.exchanges requests = disguised.exchanges requests) := by
  have alike : furnished.LooksLike disguised := looksLike_iff.mpr (by decide +kernel)
  exact ⟨alike, by decide +kernel, (hidden_from_bidders alike (by decide +kernel)).1⟩

end Replica

end AuctionHouse
