import AuctionHouse.Proofs.WireRoundTrip

/-!
# What serving a request does to a replica

Every auction that a replica holds after a request was there before, or came with the request, or
is one that was there before with the bid of the request on it, which beats its price.  So a replica
whose texts are short enough to travel keeps them so.
-/

namespace AuctionHouse

namespace Replica

/-- An answer that is passed on was given. -/
theorem exists_of_map {value : Type} {wrap : value → Reply} {answer : Except Overflow value}
    {reply : Reply} (passed : answer.map wrap = .ok reply) :
    ∃ present, answer = .ok present ∧ wrap present = reply := by
  cases answer with
  | error overflow => simp [Except.map] at passed
  | ok present => exact ⟨present, rfl, Except.ok.inj passed⟩

@[simp]
theorem serve_fingerprint (replica : Replica) :
    replica.serve .fingerprint = (.ok (.fingerprint replica.fingerprint), replica) := rfl

@[simp]
theorem serve_listings (replica : Replica) :
    replica.serve .listings = (.ok (.listings replica.listings), replica) := rfl

@[simp]
theorem probeLimit_serve (replica : Replica) (request : Request) :
    (replica.serve request).2.probeLimit = replica.probeLimit := by
  cases request with
  | fingerprint => rfl
  | addAuction auction =>
      simp only [serve, add]
      split
      · split
        · rfl
        · rfl
      · rfl
  | removeAuction requester id =>
      simp only [serve, remove]
      split
      · split
        · split
          · rfl
          · rfl
        · rfl
      · rfl
  | placeBid id amount name email =>
      simp only [serve, bid]
      split
      · split
        · split
          · rfl
          · rfl
        · rfl
      · rfl
  | listings => rfl

private theorem mem_add {replica : Replica} {auction : Auction} {row : AuctionId × Auction}
    (member : row ∈ (replica.add auction).2.auctions.rows) :
    row ∈ replica.auctions.rows ∨ row.2 = auction := by
  simp only [add] at member
  split at member
  · split at member
    · rcases Catalogue.mem_insertRow member with rfl | old
      · exact .inr rfl
      · exact .inl old
    · exact .inl member
  · exact .inl member

private theorem mem_remove {replica : Replica} {requester : String} {id : AuctionId}
    {row : AuctionId × Auction} (member : row ∈ (replica.remove requester id).2.auctions.rows) :
    row ∈ replica.auctions.rows := by
  simp only [remove] at member
  split at member
  · split at member
    · split at member
      · exact List.mem_of_mem_filter member
      · exact member
    · exact member
  · exact member

/-- What is taken out was there. -/
theorem mem_of_remove {replica : Replica} {requester : String} {id : AuctionId}
    {auction : Auction} (removed : (replica.remove requester id).1 = .ok (some auction)) :
    (id, auction) ∈ replica.auctions.rows := by
  simp only [remove] at removed
  split at removed
  · rename_i listed found
    split at removed
    · split at removed
      · obtain rfl : listed = auction := by simpa using removed
        exact (Catalogue.find?_eq_some_iff _ _ _).mp found
      · simp at removed
    · simp at removed
  · simp at removed

private theorem mem_bid {replica : Replica} {id : AuctionId} {amount : Price}
    {name email : String} {row : AuctionId × Auction}
    (member : row ∈ (replica.bid id amount name email).2.auctions.rows) :
    row ∈ replica.auctions.rows ∨
      ∃ auction, (id, auction) ∈ replica.auctions.rows ∧ auction.currentPrice < amount ∧
        row = (id, auction.withBid amount name email) := by
  simp only [bid] at member
  split at member
  · rename_i auction found
    have listed : (id, auction) ∈ replica.auctions.rows :=
      (Catalogue.find?_eq_some_iff _ _ _).mp found
    split at member
    · rename_i beats
      -- the bid is in the catalogue whether or not its weight could be added up
      have inserted : row ∈
          Catalogue.insertRow id (auction.withBid amount name email) replica.auctions.rows := by
        split at member <;> exact member
      rcases Catalogue.mem_insertRow inserted with rfl | old
      · exact .inr ⟨auction, listed, beats, rfl⟩
      · exact .inl old
    · exact .inl member
  · exact .inl member

/-- Where an auction comes from that is there after a request. -/
theorem mem_serve {replica : Replica} {request : Request} {row : AuctionId × Auction}
    (member : row ∈ (replica.serve request).2.auctions.rows) :
    row ∈ replica.auctions.rows ∨ request = .addAuction row.2 ∨
      ∃ auction amount name email, (row.1, auction) ∈ replica.auctions.rows ∧
        auction.currentPrice < amount ∧ request = .placeBid row.1 amount name email ∧
        row.2 = auction.withBid amount name email := by
  cases request with
  | fingerprint => exact .inl member
  | addAuction auction =>
      rcases mem_add member with old | added
      · exact .inl old
      · exact .inr (.inl (by rw [added]))
  | removeAuction requester id => exact .inl (mem_remove member)
  | placeBid id amount name email =>
      rcases mem_bid member with old | ⟨auction, listed, beats, rfl⟩
      · exact .inl old
      · exact .inr (.inr ⟨auction, amount, name, email, listed, beats, rfl, rfl⟩)
  | listings => exact .inl member

/-- An auction in a reply was there when its removal was asked for. -/
theorem listed_of_removed {replica : Replica} {request : Request} {auction : Auction}
    (served : (replica.serve request).1 = .ok (.removed (some auction))) :
    ∃ requester id, request = .removeAuction requester id ∧
      (id, auction) ∈ replica.auctions.rows := by
  cases request with
  | removeAuction requester id =>
      obtain ⟨present, answered, same⟩ := exists_of_map served
      obtain rfl := Reply.removed.inj same
      exact ⟨requester, id, rfl, mem_of_remove answered⟩
  | addAuction other =>
      obtain ⟨present, -, same⟩ := exists_of_map served
      contradiction
  | placeBid id amount name email =>
      obtain ⟨present, -, same⟩ := exists_of_map served
      contradiction
  | fingerprint => simp at served
  | listings => simp at served

/-- Texts stay short enough to travel. -/
theorem storable_serve {replica : Replica} {request : Request}
    (texts : replica.snapshot.Storable) (storable : request.Storable) :
    (replica.serve request).2.snapshot.Storable := by
  intro row member
  rcases mem_serve member with old | rfl | ⟨auction, amount, name, email, listed, -, rfl, raised⟩
  · exact texts row old
  · exact storable
  · have before : auction.Storable := texts _ listed
    rw [raised]
    exact ⟨before.description, before.owner, storable.1, storable.2⟩

/-- Every reply but a table carries only texts of the replica. -/
theorem storable_reply {replica : Replica} {request : Request} {reply : Reply}
    (texts : replica.snapshot.Storable)
    (table : request = .listings → Text.Storable replica.listings)
    (served : (replica.serve request).1 = .ok reply) : reply.Storable := by
  cases request with
  | fingerprint =>
      rw [serve_fingerprint] at served
      obtain rfl := Except.ok.inj served
      trivial
  | addAuction auction =>
      obtain ⟨id, -, rfl⟩ := exists_of_map served
      trivial
  | removeAuction requester id =>
      obtain ⟨removed, answered, rfl⟩ := exists_of_map served
      cases removed with
      | none => trivial
      | some auction => exact texts (id, auction) (mem_of_remove answered)
  | placeBid id amount name email =>
      obtain ⟨outcome, -, rfl⟩ := exists_of_map served
      trivial
  | listings =>
      rw [serve_listings] at served
      obtain rfl := Except.ok.inj served
      exact table rfl

end Replica

end AuctionHouse
