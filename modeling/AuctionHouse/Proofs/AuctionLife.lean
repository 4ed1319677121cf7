import AuctionHouse.Proofs.Refusals

/-!
# The life of an auction

From the moment an auction is filed under a number until its owner takes it out, it stays under
that number, and what was fixed when it was opened stays fixed.  Only bids on it that beat its
current price change it, so the price never falls: whatever else the replica serves, and whether or
not it can account for what it serves.  When the owner takes it out, the owner gets it as it
stands, and everything else stays where it is.
-/

namespace AuctionHouse

namespace Auction

/-- The auction under a number after a request that does not take it out: a bid on the number that
beats the current price is on it. -/
def afterRequest (auction : Auction) (id : AuctionId) : Request → Auction
  | .placeBid target amount name email =>
    if target = id ∧ auction.currentPrice < amount then auction.withBid amount name email
    else auction
  | _ => auction

/-- What one auction can become while it is open: what was fixed at its opening is the same, and the
price is the same or higher. -/
structure DevelopsInto (auction later : Auction) : Prop where
  reservePrice : later.reservePrice = auction.reservePrice
  description : later.description = auction.description
  owner : later.owner = auction.owner
  price : later.currentPrice = auction.currentPrice ∨ auction.currentPrice < later.currentPrice

theorem DevelopsInto.refl (auction : Auction) : auction.DevelopsInto auction :=
  ⟨rfl, rfl, rfl, .inl rfl⟩

theorem DevelopsInto.trans {auction later last : Auction} (first : auction.DevelopsInto later)
    (second : later.DevelopsInto last) : auction.DevelopsInto last where
  reservePrice := second.reservePrice.trans first.reservePrice
  description := second.description.trans first.description
  owner := second.owner.trans first.owner
  price := by
    rcases first.price with same | above
    · rw [← same]
      exact second.price
    · rcases second.price with same | further
      · exact .inr (same ▸ above)
      · exact .inr (Price.lt_trans above further)

theorem developsInto_afterRequest (auction : Auction) (id : AuctionId) (request : Request) :
    auction.DevelopsInto (auction.afterRequest id request) := by
  unfold afterRequest
  split
  · split
    · rename_i beats
      exact ⟨rfl, rfl, rfl, .inr beats.2⟩
    · exact .refl auction
  · exact .refl auction

end Auction

/-! ## One request -/

namespace Replica

variable {replica : Replica} {id : AuctionId} {auction : Auction}

/-- A new auction gets a number under which nothing is filed. -/
theorem find?_add (live : replica.auctions.find? id = some auction) (other : Auction) :
    (replica.add other).2.auctions.find? id = some auction := by
  simp only [add]
  split
  · rename_i found
    split
    · have free := replica.auctions.contains_probe replica.nextId replica.probeLimit.toNat
      rw [found] at free
      have apart : id ≠ (replica.auctions.probe replica.nextId replica.probeLimit.toNat).2 := by
        intro same
        simp [Catalogue.contains, ← same, live] at free
      rw [Catalogue.find?_insert, if_neg apart]
      exact live
    · exact live
  · exact live

/-- Nobody takes out what is somebody else's. -/
theorem find?_remove (live : replica.auctions.find? id = some auction) {requester : String}
    {target : AuctionId} (kept : ¬(target = id ∧ requester = auction.owner)) :
    (replica.remove requester target).2.auctions.find? id = some auction := by
  simp only [remove]
  split
  · rename_i listed found
    split
    · rename_i owned
      have apart : id ≠ target := by
        rintro rfl
        obtain rfl := Option.some.inj (live.symm.trans found)
        exact kept ⟨rfl, owned.symm⟩
      split
      · rw [Catalogue.find?_erase, if_neg apart]
        exact live
      · exact live
    · exact live
  · exact live

/-- A bid that beats the price is on the auction, whether or not it could be accounted for. -/
theorem find?_bid (live : replica.auctions.find? id = some auction) (target : AuctionId)
    (amount : Price) (name email : String) :
    (replica.bid target amount name email).2.auctions.find? id =
      some (if target = id ∧ auction.currentPrice < amount then
        auction.withBid amount name email else auction) := by
  by_cases same : target = id
  · subst same
    by_cases beats : auction.currentPrice < amount
    · have raised : (replica.auctions.insert target
          (auction.withBid amount name email)).find? target =
            some (auction.withBid amount name email) := by
        rw [Catalogue.find?_insert, if_pos rfl]
      rw [if_pos ⟨rfl, beats⟩]
      simp only [bid, live, if_pos beats]
      split
      · exact raised
      · exact raised
    · rw [if_neg fun both => beats both.2]
      simp only [bid, live, if_neg beats]
  · rw [if_neg fun both => same both.1]
    have elsewhere (entry : Auction) :
        (replica.auctions.insert target entry).find? id = some auction := by
      rw [Catalogue.find?_insert, if_neg fun equal => same equal.symm]
      exact live
    simp only [bid]
    split
    · split
      · split
        · exact elsewhere _
        · exact elsewhere _
      · exact live
    · exact live

/-- As long as its owner does not take it out an auction stays where it is, and what becomes of it
is up to the bids on it. -/
theorem find?_serve_of_live (live : replica.auctions.find? id = some auction) {request : Request}
    (kept : request ≠ .removeAuction auction.owner id) :
    (replica.serve request).2.auctions.find? id = some (auction.afterRequest id request) := by
  cases request with
  | fingerprint => exact live
  | addAuction other => exact find?_add live other
  | removeAuction requester target =>
      refine find?_remove live ?_
      rintro ⟨rfl, rfl⟩
      exact kept rfl
  | placeBid target amount name email => exact find?_bid live target amount name email
  | listings => exact live

end Replica

/-! ## Taking it out -/

theorem textWeight_nonneg (text : String) : 0 ≤ textWeight text := by
  have grows (characters : List Char) (start : Int) (nonneg : 0 ≤ start) :
      0 ≤ characters.foldl (fun sum character => sum + (character.toNat : Int)) start := by
    induction characters generalizing start with
    | nil => exact nonneg
    | cons character rest induction =>
        exact induction _ (Int.add_nonneg nonneg (Int.natCast_nonneg _))
  exact grows text.toList 0 (by decide)

/-- Taking out is accounted for unless the requester's name is trillions of characters long. -/
theorem weight?_remove (id : AuctionId) (requester : String) :
    (Change.remove id requester).weight? =
      if textWeight requester + id.toNat ≤ Int64.maxValue.toInt then
        some (textWeight requester + id.toNat)
      else none := by
  have least : Int64.minValue.toInt ≤ 0 := by decide
  have number : (id.toNat : Int) ≤ Int64.maxValue.toInt := by
    have bound : id.toNat < UInt32.size := id.toNat_lt_size
    have roomy : (UInt32.size : Int) ≤ Int64.maxValue.toInt := by decide
    omega
  have name := textWeight_nonneg requester
  simp only [Change.weight?, Change.weightTerms, checkedSum?, fitsWord, Int.zero_add]
  split
  · split
    · rw [if_pos (by omega)]
    · rw [if_neg (by omega)]
  · rw [if_neg (by omega)]

namespace Replica

variable {replica : Replica} {id : AuctionId} {auction : Auction}

/-- The owner gets the auction as it stands, and only this auction is gone. -/
theorem serve_removal (live : replica.auctions.find? id = some auction) :
    replica.serve (.removeAuction auction.owner id) =
      if textWeight auction.owner + id.toNat ≤ Int64.maxValue.toInt then
        (.ok (.removed (some auction)),
          { replica with
            auctions := replica.auctions.erase id
            fingerprint :=
              replica.fingerprint + .ofInt (textWeight auction.owner + id.toNat) })
      else (.error .weight, replica) := by
  simp only [serve, remove, live, if_true, Fingerprint.record?, weight?_remove]
  by_cases light : textWeight auction.owner + id.toNat ≤ Int64.maxValue.toInt
  · simp only [if_pos light, Option.map_some, Except.map]
  · simp only [if_neg light, Option.map_none, Except.map]

/-! ## Any number of requests -/

/-- The replica after some requests, whether or not they were answered. -/
def afterRequests (replica : Replica) (requests : List Request) : Replica :=
  requests.foldl (fun replica request => (replica.serve request).2) replica

/-- Whatever is served, an auction that its owner does not take out stays where it is, with all that
was fixed at its opening. -/
theorem find?_afterRequests {requests : List Request}
    (live : replica.auctions.find? id = some auction)
    (kept : ∀ request ∈ requests, request ≠ .removeAuction auction.owner id) :
    ∃ held, (replica.afterRequests requests).auctions.find? id = some held ∧
      auction.DevelopsInto held := by
  induction requests generalizing replica auction with
  | nil => exact ⟨auction, live, .refl auction⟩
  | cons request rest induction =>
      have developed := auction.developsInto_afterRequest id request
      have stays := find?_serve_of_live live (kept request List.mem_cons_self)
      obtain ⟨held, found, further⟩ := induction stays fun later member => by
        rw [developed.owner]
        exact kept later (List.mem_cons_of_mem _ member)
      exact ⟨held, found, developed.trans further⟩

/-- The life of an auction.  Whatever has been served since it was live, except that its owner took
it out, it is live with the reserve, the description and the owner it had, at a price that has not
fallen.  The next request leaves it as it is unless it is a bid on it that beats its price, which it
then carries, or its owner takes it out.  In that case the owner gets it as it stands and everything
else stays where it is, unless the owner's name weighs too much to be accounted for: then nothing
happens. -/
theorem auction_life (requests : List Request)
    (live : replica.auctions.find? id = some auction)
    (kept : ∀ request ∈ requests, request ≠ .removeAuction auction.owner id) :
    ∃ held, (replica.afterRequests requests).auctions.find? id = some held ∧
      auction.DevelopsInto held ∧
      (∀ request, request ≠ .removeAuction auction.owner id →
        ((replica.afterRequests requests).serve request).2.auctions.find? id =
          some (held.afterRequest id request)) ∧
      (textWeight auction.owner + id.toNat ≤ Int64.maxValue.toInt →
        ((replica.afterRequests requests).serve (.removeAuction auction.owner id)).1 =
            .ok (.removed (some held)) ∧
          ∀ other, ((replica.afterRequests requests).serve
              (.removeAuction auction.owner id)).2.auctions.find? other =
            if other = id then none else (replica.afterRequests requests).auctions.find? other) ∧
      (¬textWeight auction.owner + id.toNat ≤ Int64.maxValue.toInt →
        (replica.afterRequests requests).serve (.removeAuction auction.owner id) =
          (.error .weight, replica.afterRequests requests)) := by
  obtain ⟨held, found, developed⟩ := find?_afterRequests live kept
  have removal := serve_removal found
  rw [developed.owner] at removal
  refine ⟨held, found, developed, fun request other => ?_, fun light => ?_, fun heavy => ?_⟩
  · exact find?_serve_of_live found (developed.owner ▸ other)
  · rw [removal, if_pos light]
    exact ⟨rfl, fun other => Catalogue.find?_erase _ id other⟩
  · rw [removal, if_neg heavy]

/-- A bid that cannot be accounted for and a stranger's attempt to take the lamp out leave it to its
owner. -/
theorem auction_life_furnished :
    furnished.auctions.find? 1000 = some (.unbid "Ann" ⟨0⟩ "Lamp" ⟨0⟩) ∧
      ∃ held,
        (furnished.afterRequests [excessive, .removeAuction "Eve" 1000]).auctions.find? 1000 =
            some held ∧
          (Auction.unbid "Ann" ⟨0⟩ "Lamp" ⟨0⟩).DevelopsInto held ∧
          ((furnished.afterRequests [excessive, .removeAuction "Eve" 1000]).serve
            (.removeAuction "Ann" 1000)).1 = .ok (.removed (some held)) := by
  have live : furnished.auctions.find? 1000 = some (.unbid "Ann" ⟨0⟩ "Lamp" ⟨0⟩) := by
    decide +kernel
  obtain ⟨held, found, developed, -, removal, -⟩ :=
    auction_life [excessive, .removeAuction "Eve" 1000] live (by decide +kernel)
  exact ⟨live, held, found, developed, (removal (by decide +kernel)).1⟩

end Replica

end AuctionHouse
