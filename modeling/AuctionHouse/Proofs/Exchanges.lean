import Mathlib.Algebra.BigOperators.Group.List.Basic
import Mathlib.Algebra.Ring.Int.Defs
import AuctionHouse.Proofs.AuctionLife

/-!
# The fingerprint tells what was answered

A request that is carried out changes the auctions and leaves the weight of that change in the
fingerprint; every other request, whether it is refused, interrupted or only asks for something,
leaves no trace there.  So the fingerprint after a history is the one before it and the weights of
what was answered, and it does not depend on the order of the answers.
-/

namespace AuctionHouse

/-! ## Weights -/

theorem foldl_add_eq_sum (start : Int) (terms : List Int) :
    terms.foldl (· + ·) start = start + terms.sum := by
  induction terms generalizing start with
  | nil => simp
  | cons term rest induction => rw [List.foldl_cons, induction, List.sum_cons, Int.add_assoc]

/-- What an auction weighs. -/
def Auction.weight (auction : Auction) : Int := auction.weightTerms.sum

/-- What a change weighs. -/
def Change.weight : Change → Int
  | .insert id auction => auction.weight + id.toNat
  | .remove id requester => textWeight requester + id.toNat
  | .bid amount name email => amount.hundredths + textWeight name + textWeight email

theorem Change.sum_weightTerms (change : Change) : change.weightTerms.sum = change.weight := by
  cases change with
  | insert id auction =>
      rw [weightTerms, List.sum_append, weight, Auction.weight, List.sum_singleton]
  | remove id requester => simp [weightTerms, weight]
  | bid amount name email => simp [weightTerms, weight, Int.add_assoc]

/-- A weight that can be added up is the weight. -/
theorem Change.weight?_eq_some {change : Change} {total : Int}
    (light : change.weight? = some total) : total = change.weight := by
  rw [checkedSum?_eq_some light, foldl_add_eq_sum, Int.zero_add, change.sum_weightTerms]

theorem Fingerprint.record?_eq_some {fingerprint after : Fingerprint} {change : Change}
    (recorded : fingerprint.record? change = some after) :
    change.weight? = some change.weight ∧ after = fingerprint + .ofInt change.weight := by
  obtain ⟨total, light, rfl⟩ := Option.map_eq_some_iff.mp recorded
  obtain rfl := Change.weight?_eq_some light
  exact ⟨light, rfl⟩

theorem Fingerprint.record?_of_light {change : Change}
    (light : change.weight? = some change.weight) (fingerprint : Fingerprint) :
    fingerprint.record? change = some (fingerprint + .ofInt change.weight) := by
  rw [record?, light, Option.map_some]

/-- What weighs something moves the fingerprint, unless it goes once around. -/
theorem Fingerprint.add_ne_self {fingerprint : Fingerprint} {weight : Int} (low : 0 < weight)
    (high : weight < 2 ^ 64) : fingerprint + .ofInt weight ≠ fingerprint := by
  intro same
  have still : (Int64.ofInt weight).toInt = 0 := by
    rw [Int64.add_eq_left.mp same, Int64.toInt_zero]
  have around : (2 : Int) ^ 64 ∣ weight := by
    rw [Int64.toInt_ofInt] at still
    exact Int.dvd_of_bmod_eq_zero still
  exact absurd (Int.le_of_dvd low around) (Int.not_le.mpr high)

/-! ## One request -/

namespace Replica

variable {replica : Replica}

/-- What a request that is carried out makes of a replica, with the change that it is. -/
inductive CarriesOut (replica : Replica) : Request → Reply → Change → Replica → Prop
  /-- The auction gets the first free number, and the next search begins there. -/
  | addition {auction : Auction} {id : AuctionId} (above : replica.nextId ≤ id)
      (near : id.toNat ≤ replica.nextId.toNat + replica.probeLimit.toNat)
      (passed : replica.auctions.Taken replica.nextId id)
      (free : replica.auctions.contains id = false)
      (light : (Change.insert id auction).weight? = some (Change.insert id auction).weight) :
      CarriesOut replica (.addAuction auction) (.added (some id)) (.insert id auction)
        { replica with
          nextId := id
          auctions := replica.auctions.insert id auction
          fingerprint := replica.fingerprint + .ofInt (Change.insert id auction).weight }
  /-- The owner gets the auction. -/
  | removal {requester : String} {id : AuctionId} {auction : Auction}
      (listed : replica.auctions.find? id = some auction) (owned : auction.owner = requester)
      (light : (Change.remove id requester).weight? = some (Change.remove id requester).weight) :
      CarriesOut replica (.removeAuction requester id) (.removed (some auction))
        (.remove id requester)
        { replica with
          auctions := replica.auctions.erase id
          fingerprint := replica.fingerprint + .ofInt (Change.remove id requester).weight }
  /-- The bid is on the auction. -/
  | bid {id : AuctionId} {amount : Price} {name email : String} {auction : Auction}
      (listed : replica.auctions.find? id = some auction) (beats : auction.currentPrice < amount)
      (light : (Change.bid amount name email).weight? =
        some (Change.bid amount name email).weight) :
      CarriesOut replica (.placeBid id amount name email) (.bid .accepted)
        (.bid amount name email)
        { replica with
          auctions := replica.auctions.insert id (auction.withBid amount name email)
          fingerprint := replica.fingerprint + .ofInt (Change.bid amount name email).weight }

theorem CarriesOut.fingerprint_eq {request : Request} {reply : Reply} {change : Change}
    {after : Replica} (carried : replica.CarriesOut request reply change after) :
    after.fingerprint = replica.fingerprint + .ofInt change.weight := by
  cases carried with
  | addition => rfl
  | removal => rfl
  | bid => rfl

/-- What is carried out is what is served. -/
theorem CarriesOut.serve_eq {request : Request} {reply : Reply} {change : Change}
    {after : Replica} (carried : replica.CarriesOut request reply change after) :
    replica.serve request = (.ok reply, after) := by
  cases carried with
  | addition above near passed free light =>
      have recorded := Fingerprint.record?_of_light light replica.fingerprint
      simp only [serve, add, Catalogue.probe_of_taken above near passed free, if_true, recorded]
      rfl
  | removal listed owned light =>
      have recorded := Fingerprint.record?_of_light light replica.fingerprint
      simp only [serve, remove, listed, if_pos owned, recorded]
      rfl
  | bid listed beats light =>
      have recorded := Fingerprint.record?_of_light light replica.fingerprint
      simp only [serve, Replica.bid, listed, if_pos beats, recorded]
      rfl

end Replica

/-- A request with what came of it. -/
abbrev Exchange := Request × Except Overflow Reply

/-- The change that an answered request was; none if it was refused, or only asked for something. -/
def Exchange.change? : Exchange → Option Change
  | (.addAuction auction, .ok (.added (some id))) => some (.insert id auction)
  | (.removeAuction requester id, .ok (.removed (some _))) => some (.remove id requester)
  | (.placeBid _ amount name email, .ok (.bid .accepted)) => some (.bid amount name email)
  | _ => none

namespace Replica

variable {replica : Replica}

theorem carriesOut_add {auction : Auction} {id : AuctionId}
    (answered : (replica.add auction).1 = .ok (some id)) :
    replica.CarriesOut (.addAuction auction) (.added (some id)) (.insert id auction)
      (replica.add auction).2 := by
  obtain ⟨above, near⟩ := replica.auctions.probe_within replica.nextId replica.probeLimit.toNat
  have passed := replica.auctions.taken_probe replica.nextId replica.probeLimit.toNat
  have free := replica.auctions.contains_probe replica.nextId replica.probeLimit.toNat
  simp only [add] at answered ⊢
  split at answered
  · rename_i found
    rw [if_pos found]
    rw [found] at free
    split at answered
    · rename_i fingerprint recorded
      obtain rfl := Option.some.inj (Except.ok.inj answered)
      obtain ⟨light, rfl⟩ := Fingerprint.record?_eq_some recorded
      exact .addition above near passed free light
    · simp at answered
  · simp at answered

theorem carriesOut_remove {requester : String} {id : AuctionId} {auction : Auction}
    (answered : (replica.remove requester id).1 = .ok (some auction)) :
    replica.CarriesOut (.removeAuction requester id) (.removed (some auction))
      (.remove id requester) (replica.remove requester id).2 := by
  simp only [remove] at answered ⊢
  split at answered
  · rename_i listed found
    split at answered
    · rename_i owned
      rw [if_pos owned]
      split at answered
      · rename_i fingerprint recorded
        obtain rfl := Option.some.inj (Except.ok.inj answered)
        obtain ⟨light, rfl⟩ := Fingerprint.record?_eq_some recorded
        exact .removal found owned light
      · simp at answered
    · simp at answered
  · simp at answered

theorem carriesOut_bid {id : AuctionId} {amount : Price} {name email : String}
    (answered : (replica.bid id amount name email).1 = .ok .accepted) :
    replica.CarriesOut (.placeBid id amount name email) (.bid .accepted)
      (.bid amount name email) (replica.bid id amount name email).2 := by
  simp only [bid] at answered ⊢
  split at answered
  · rename_i auction found
    split at answered
    · rename_i beats
      rw [if_pos beats]
      split at answered
      · rename_i fingerprint recorded
        obtain ⟨light, rfl⟩ := Fingerprint.record?_eq_some recorded
        exact .bid found beats light
      · simp at answered
    · simp at answered
  · simp at answered

/-- Whatever is answered as a change has been carried out. -/
theorem carriesOut_of_change {request : Request} {reply : Reply} {change : Change}
    (served : (replica.serve request).1 = .ok reply)
    (changes : Exchange.change? (request, .ok reply) = some change) :
    replica.CarriesOut request reply change (replica.serve request).2 := by
  cases request with
  | fingerprint => simp [Exchange.change?] at changes
  | listings => simp [Exchange.change?] at changes
  | addAuction auction =>
      obtain ⟨given, answered, rfl⟩ := exists_of_map served
      cases given with
      | none => simp [Exchange.change?] at changes
      | some id =>
          obtain rfl := Option.some.inj changes
          exact carriesOut_add answered
  | removeAuction requester id =>
      obtain ⟨given, answered, rfl⟩ := exists_of_map served
      cases given with
      | none => simp [Exchange.change?] at changes
      | some auction =>
          obtain rfl := Option.some.inj changes
          exact carriesOut_remove answered
  | placeBid id amount name email =>
      obtain ⟨outcome, answered, rfl⟩ := exists_of_map served
      cases outcome with
      | accepted =>
          obtain rfl := Option.some.inj changes
          exact carriesOut_bid answered
      | tooLow => simp [Exchange.change?] at changes
      | noSuchAuction => simp [Exchange.change?] at changes

/-- An answer that is no change leaves a replica as it was, but for a search that was given up. -/
theorem left_of_unchanged {request : Request} {reply : Reply}
    (served : (replica.serve request).1 = .ok reply)
    (unchanged : Exchange.change? (request, .ok reply) = none) :
    (replica.serve request).2 = if reply = .added none then replica.searched else replica := by
  cases request with
  | fingerprint =>
      obtain rfl := Except.ok.inj served
      simp
  | listings =>
      obtain rfl := Except.ok.inj served
      simp
  | addAuction auction =>
      obtain ⟨given, answered, rfl⟩ := exists_of_map served
      cases given with
      | none => exact (add_of_none answered).1
      | some id => simp [Exchange.change?] at unchanged
  | removeAuction requester id =>
      obtain ⟨given, answered, rfl⟩ := exists_of_map served
      cases given with
      | none => exact remove_of_none answered
      | some auction => simp [Exchange.change?] at unchanged
  | placeBid id amount name email =>
      obtain ⟨outcome, answered, rfl⟩ := exists_of_map served
      have rejected : outcome ≠ .accepted := by
        rintro rfl
        simp [Exchange.change?] at unchanged
      exact bid_of_not_accepted answered rejected

/-- What serving a request does: it is carried out, or nothing comes of it but perhaps a search for
a free number that was given up, or it is interrupted. -/
theorem serve_cases (replica : Replica) (request : Request) :
    (∃ reply change, (replica.serve request).1 = .ok reply ∧
        Exchange.change? (request, .ok reply) = some change ∧
        replica.CarriesOut request reply change (replica.serve request).2) ∨
      (∃ reply, (replica.serve request).1 = .ok reply ∧
        Exchange.change? (request, .ok reply) = none ∧
        (replica.serve request).2 = if reply = .added none then replica.searched else replica) ∨
      (replica.serve request).1 = .error .weight ∧
        replica.Interrupted request (replica.serve request).2 := by
  cases served : (replica.serve request).1 with
  | error overflow =>
      have cut : replica.Interrupted request (replica.serve request).2 :=
        serve_eq_overflow_iff.mp (Prod.ext served rfl)
      exact .inr (.inr ⟨rfl, cut⟩)
  | ok reply =>
      cases changes : Exchange.change? (request, .ok reply) with
      | some change =>
          exact .inl ⟨reply, change, rfl, changes, carriesOut_of_change served changes⟩
      | none =>
          exact .inr (.inl ⟨reply, rfl, changes, left_of_unchanged served changes⟩)

@[simp]
theorem fingerprint_searched (replica : Replica) :
    replica.searched.fingerprint = replica.fingerprint := rfl

end Replica

/-! ## Any number of requests -/

deriving instance DecidableEq for Change

/-- The changes among some exchanges. -/
def Exchange.changes (exchanges : List Exchange) : List Change := exchanges.filterMap change?

namespace Replica

/-- What comes of some requests, one after the other. -/
def exchanges (replica : Replica) : List Request → List Exchange
  | [] => []
  | request :: later =>
    (request, (replica.serve request).1) :: (replica.serve request).2.exchanges later

/-- The fingerprint after one request tells its answer. -/
theorem fingerprint_serve (replica : Replica) (request : Request) :
    (replica.serve request).2.fingerprint =
      replica.fingerprint +
        .ofInt ((Exchange.changes [(request, (replica.serve request).1)]).map
          Change.weight).sum := by
  rcases replica.serve_cases request with
    ⟨reply, change, served, isChange, carried⟩ | ⟨reply, served, noChange, left⟩ | ⟨served, cut⟩
  · rw [carried.fingerprint_eq, served]
    simp [Exchange.changes, isChange]
  · have kept : (replica.serve request).2.fingerprint = replica.fingerprint := by
      rw [left]
      split
      · exact replica.fingerprint_searched
      · rfl
    rw [kept, served]
    simp [Exchange.changes, noChange]
  · rw [cut.fingerprint_eq, served]
    simp [Exchange.changes, Exchange.change?]

/-- What is made of the fingerprint by one request. -/
theorem fingerprint_serve_eq (replica : Replica) (request : Request) :
    (replica.serve request).2.fingerprint =
      match Exchange.change? (request, (replica.serve request).1) with
      | some change => replica.fingerprint + .ofInt change.weight
      | none => replica.fingerprint := by
  rw [replica.fingerprint_serve]
  cases changes : Exchange.change? (request, (replica.serve request).1) with
  | some change => simp [Exchange.changes, changes]
  | none => simp [Exchange.changes, changes]

/-- The fingerprint after a history is the one before it and the weights of what was answered. -/
theorem fingerprint_afterRequests (replica : Replica) (requests : List Request) :
    (replica.afterRequests requests).fingerprint =
      replica.fingerprint +
        .ofInt ((Exchange.changes (replica.exchanges requests)).map Change.weight).sum := by
  induction requests generalizing replica with
  | nil => simp [afterRequests, exchanges, Exchange.changes]
  | cons request later induction =>
      obtain ⟨after, isAfter⟩ : ∃ after, after = (replica.serve request).2 := ⟨_, rfl⟩
      have split : Exchange.changes (replica.exchanges (request :: later)) =
          Exchange.changes [(request, (replica.serve request).1)] ++
            Exchange.changes (after.exchanges later) := by
        rw [isAfter, Exchange.changes, Exchange.changes, Exchange.changes, ← List.filterMap_append]
        rfl
      calc
        (replica.afterRequests (request :: later)).fingerprint
            = (after.afterRequests later).fingerprint := by rw [isAfter]; rfl
        _ = after.fingerprint +
              .ofInt ((Exchange.changes (after.exchanges later)).map Change.weight).sum :=
            induction after
        _ = _ := by
            rw [split, List.map_append, List.sum_append, Int64.ofInt_add, isAfter,
              replica.fingerprint_serve request, Int64.add_assoc]

/-- The fingerprint is a function of what was answered, and of that only up to order: wherever the
same changes are made, in whatever order and among whatever else, it grows by the same amount. -/
theorem fingerprint_of_changes (replica : Replica) (requests : List Request) :
    (replica.afterRequests requests).fingerprint =
        replica.fingerprint +
          .ofInt ((Exchange.changes (replica.exchanges requests)).map Change.weight).sum ∧
      ∀ (other : Replica) (others : List Request),
        (Exchange.changes (replica.exchanges requests)).Perm
            (Exchange.changes (other.exchanges others)) →
          (replica.afterRequests requests).fingerprint - replica.fingerprint =
            (other.afterRequests others).fingerprint - other.fingerprint := by
  have grown (replica : Replica) (requests : List Request) :
      (replica.afterRequests requests).fingerprint - replica.fingerprint =
        .ofInt ((Exchange.changes (replica.exchanges requests)).map Change.weight).sum := by
    rw [replica.fingerprint_afterRequests, Int64.add_comm, Int64.add_sub_cancel]
  refine ⟨replica.fingerprint_afterRequests requests, fun other others same => ?_⟩
  rw [grown replica, grown other, (same.map Change.weight).sum_eq]

/-- A bid and a new auction count the same in either order, and what is refused or interrupted does
not count at all. -/
theorem fingerprint_of_changes_reordered :
    let bid : Request := .placeBid 1000 ⟨0x4024000000000000⟩ "Bob" "bob@example.com"
    let addition : Request := .addAuction (.unbid "Eve" ⟨0⟩ "Rug" ⟨0⟩)
    let requests := [bid, bid, addition]
    let others := [addition, .removeAuction "Eve" 1000, bid, excessive]
    (furnished.afterRequests requests).fingerprint - furnished.fingerprint = 6106 ∧
      (furnished.afterRequests requests).fingerprint - furnished.fingerprint =
        (furnished.afterRequests others).fingerprint - furnished.fingerprint := by
  intro bid addition requests others
  have changes : Exchange.changes (furnished.exchanges requests) =
      [.bid ⟨0x4024000000000000⟩ "Bob" "bob@example.com",
        .insert 1001 (.unbid "Eve" ⟨0⟩ "Rug" ⟨0⟩)] := by
    decide +kernel
  have same : Exchange.changes (furnished.exchanges others) =
      [.insert 1001 (.unbid "Eve" ⟨0⟩ "Rug" ⟨0⟩),
        .bid ⟨0x4024000000000000⟩ "Bob" "bob@example.com"] := by
    decide +kernel
  have result := furnished.fingerprint_of_changes requests
  refine ⟨by decide +kernel, result.2 furnished others ?_⟩
  rw [changes, same]
  exact .swap _ _ []

end Replica

end AuctionHouse
