import AuctionHouse.Proofs.SeedLines
import AuctionHouse.Proofs.Serving

/-!
# Requests that come to nothing

A request comes to nothing in one of two ways.  Its answer is negative: then the replica is as it
was, except that a search for a free number that was given up has moved the position from which the
next one begins.  Or its weight could not be added up, and there is no answer.  Taking out and
adding account for themselves before they touch the auctions, so then nothing is left behind but
the position of the search; a bid is in the auction before it is accounted for, and the rows of a
seed file are entered one by one.
-/

namespace AuctionHouse

/-! ## The search for a free number -/

namespace Catalogue

variable {auctions : Catalogue Auction}

/-- All numbers from one on, up to another one, are taken. -/
def Taken (auctions : Catalogue Auction) (first stop : AuctionId) : Prop :=
  ∀ number, first ≤ number → number < stop → auctions.contains number = true

theorem toNat_next {id : AuctionId} (bound : id.toNat + 1 < UInt32.size) :
    (id + 1).toNat = id.toNat + 1 := by
  rw [UInt32.toNat_add, UInt32.toNat_one, Nat.mod_eq_of_lt bound]

theorem taken_self (auctions : Catalogue Auction) (id : AuctionId) : auctions.Taken id id :=
  fun _ above below => absurd below (UInt32.not_lt.mpr above)

theorem Taken.cons {id stop : AuctionId} (taken : auctions.contains id = true)
    (bound : id.toNat + 1 < UInt32.size) (rest : auctions.Taken (id + 1) stop) :
    auctions.Taken id stop := by
  intro number above below
  by_cases first : number = id
  · rw [first]
    exact taken
  · refine rest number ?_ below
    have differ : number.toNat ≠ id.toNat := fun same => first (UInt32.toNat_inj.mp same)
    have atLeast := UInt32.le_iff_toNat_le.mp above
    rw [UInt32.le_iff_toNat_le, toNat_next bound]
    omega

/-- Everything that a search has passed is taken. -/
theorem taken_probe (auctions : Catalogue Auction) (id : AuctionId) (budget : Nat) :
    auctions.Taken id (auctions.probe id budget).2 := by
  induction budget generalizing id with
  | zero => exact auctions.taken_self id
  | succ budget induction =>
      rw [probe]
      split
      · rename_i taken
        split
        · rename_i bound
          exact .cons taken bound (induction (id + 1))
        · exact auctions.taken_self id
      · exact auctions.taken_self id

/-- A search succeeds where it ends at a number that is not taken. -/
theorem contains_probe (auctions : Catalogue Auction) (id : AuctionId) (budget : Nat) :
    auctions.contains (auctions.probe id budget).2 = !(auctions.probe id budget).1 := by
  induction budget generalizing id with
  | zero => simp [probe]
  | succ budget induction =>
      rw [probe]
      split
      · rename_i taken
        split
        · exact induction (id + 1)
        · exact taken
      · rename_i free
        simpa using free

/-- A search is given up after passing as many numbers as it may, or at the last one there is. -/
theorem toNat_probe_of_failed {id : AuctionId} {budget : Nat}
    (failed : (auctions.probe id budget).1 = false) :
    (auctions.probe id budget).2.toNat = min (id.toNat + budget) (UInt32.size - 1) := by
  induction budget generalizing id with
  | zero =>
      have bound : id.toNat < UInt32.size := id.toNat_lt_size
      simp only [probe]
      omega
  | succ budget induction =>
      rw [probe] at failed ⊢
      split at failed
      · rename_i taken
        rw [if_pos taken]
        split at failed
        · rename_i bound
          rw [if_pos bound, induction failed, toNat_next bound]
          congr 1
          omega
        · rename_i last
          have bound : id.toNat < UInt32.size := id.toNat_lt_size
          rw [if_neg last]
          simp only
          omega
      · simp at failed

/-- A search goes no further than it may. -/
theorem probe_within (auctions : Catalogue Auction) (id : AuctionId) (budget : Nat) :
    id ≤ (auctions.probe id budget).2 ∧
      (auctions.probe id budget).2.toNat ≤ id.toNat + budget := by
  induction budget generalizing id with
  | zero => exact ⟨UInt32.le_refl id, Nat.le_refl _⟩
  | succ budget induction =>
      have stays : id ≤ id ∧ id.toNat ≤ id.toNat + (budget + 1) :=
        ⟨UInt32.le_refl id, Nat.le_add_right _ _⟩
      rw [probe]
      split
      · split
        · rename_i bound
          obtain ⟨above, near⟩ := induction (id + 1)
          rw [UInt32.le_iff_toNat_le, toNat_next bound] at above
          rw [toNat_next bound] at near
          exact ⟨UInt32.le_iff_toNat_le.mpr (by omega), by omega⟩
        · exact stays
      · exact stays

/-- The first number that is not taken is found, if it is not too far away. -/
theorem probe_of_taken {id free : AuctionId} {budget : Nat} (above : id ≤ free)
    (near : free.toNat ≤ id.toNat + budget) (passed : auctions.Taken id free)
    (isFree : auctions.contains free = false) : auctions.probe id budget = (true, free) := by
  induction budget generalizing id with
  | zero =>
      have atLeast := UInt32.le_iff_toNat_le.mp above
      obtain rfl : free = id := UInt32.toNat_inj.mp (by omega)
      simp [probe, isFree]
  | succ budget induction =>
      rw [probe]
      by_cases here : free = id
      · simp [← here, isFree]
      · have below : id < free := UInt32.lt_of_le_of_ne above fun same => here same.symm
        have bound : id.toNat + 1 < UInt32.size := by
          have inside : free.toNat < UInt32.size := free.toNat_lt_size
          have further := UInt32.lt_iff_toNat_lt.mp below
          omega
        rw [if_pos (passed id (UInt32.le_refl id) below), if_pos bound]
        have next := toNat_next bound
        refine induction ?_ (by omega) ?_
        · rw [UInt32.le_iff_toNat_le, next]
          exact UInt32.lt_iff_toNat_lt.mp below
        · intro number beyond before
          refine passed number ?_ before
          rw [UInt32.le_iff_toNat_le, next] at beyond
          exact UInt32.le_iff_toNat_le.mpr (by omega)

end Catalogue

/-! ## Negative answers -/

/-- Whether a reply says that nothing came of the request. -/
def Reply.isNegative : Reply → Bool
  | .added none | .removed none | .bid .tooLow | .bid .noSuchAuction => true
  | _ => false

namespace Replica

variable {replica : Replica}

/-- The replica after a search for a free number that was given up. -/
def searched (replica : Replica) : Replica :=
  { replica with
    nextId := .ofNat (min (replica.nextId.toNat + replica.probeLimit.toNat) (UInt32.size - 1)) }

theorem add_eq_none_iff {auction : Auction} :
    (replica.add auction).1 = .ok none ↔
      (replica.auctions.probe replica.nextId replica.probeLimit.toNat).1 = false := by
  simp only [add]
  split
  · rename_i found
    rw [found]
    split
    · simp
    · simp
  · rename_i failed
    simp [failed]

/-- When no number was found the search was given up behind numbers that are all taken. -/
theorem add_of_none {auction : Auction} (answered : (replica.add auction).1 = .ok none) :
    (replica.add auction).2 = replica.searched ∧
      ∀ number, replica.nextId ≤ number → number ≤ replica.searched.nextId →
        replica.auctions.contains number = true := by
  obtain ⟨stop, isStop⟩ : ∃ stop,
    stop = replica.auctions.probe replica.nextId replica.probeLimit.toNat := ⟨_, rfl⟩
  have given : stop.1 = false ∧ (replica.add auction).2 = { replica with nextId := stop.2 } := by
    simp only [add, ← isStop] at answered ⊢
    cases found : stop.1 with
    | false => simp
    | true =>
        simp only [found, if_true] at answered
        split at answered
        · simp at answered
        · simp at answered
  have position : stop.2 = replica.searched.nextId := by
    have value : stop.2.toNat = _ := isStop ▸ Catalogue.toNat_probe_of_failed (isStop ▸ given.1)
    rw [searched, ← value, UInt32.ofNat_toNat]
  refine ⟨?_, fun number above below => ?_⟩
  · rw [given.2, position]
    rfl
  · rw [← position] at below
    by_cases last : number = stop.2
    · have taken := replica.auctions.contains_probe replica.nextId replica.probeLimit.toNat
      rw [← isStop, given.1] at taken
      rw [last]
      exact taken
    · have passed := replica.auctions.taken_probe replica.nextId replica.probeLimit.toNat
      rw [← isStop] at passed
      exact passed number above (UInt32.lt_of_le_of_ne below last)

theorem remove_of_none {requester : String} {id : AuctionId}
    (answered : (replica.remove requester id).1 = .ok none) :
    (replica.remove requester id).2 = replica := by
  simp only [remove] at answered ⊢
  split at answered
  · split at answered
    · rename_i owned
      split at answered
      · simp at answered
      · simp at answered
    · rename_i foreign
      rw [if_neg foreign]
  · rfl

theorem bid_of_not_accepted {id : AuctionId} {amount : Price} {name email : String}
    {outcome : BidOutcome} (answered : (replica.bid id amount name email).1 = .ok outcome)
    (negative : outcome ≠ .accepted) : (replica.bid id amount name email).2 = replica := by
  simp only [bid] at answered ⊢
  split at answered
  · split at answered
    · split at answered
      · exact absurd (Except.ok.inj answered).symm negative
      · simp at answered
    · rename_i beaten
      rw [if_neg beaten]
  · rfl

/-- A negative answer leaves a replica as it was, but for the position of a search that was given
up: that has moved as far as it may, past numbers that are all taken. -/
theorem serve_of_negative {request : Request} {reply : Reply}
    (served : (replica.serve request).1 = .ok reply) (negative : reply.isNegative = true) :
    (replica.serve request).2 = (if reply = .added none then replica.searched else replica) ∧
      (reply = .added none → ∀ number, replica.nextId ≤ number →
        number ≤ replica.searched.nextId → replica.auctions.contains number = true) := by
  cases request with
  | fingerprint =>
      obtain rfl := Except.ok.inj served
      simp [Reply.isNegative] at negative
  | listings =>
      obtain rfl := Except.ok.inj served
      simp [Reply.isNegative] at negative
  | addAuction auction =>
      change (replica.add auction).1.map Reply.added = _ at served
      change (replica.add auction).2 = _ ∧ _
      cases answered : (replica.add auction).1 with
      | error overflow => simp [answered, Except.map] at served
      | ok given =>
          rw [answered] at served
          obtain rfl := Except.ok.inj served
          cases given with
          | some id => simp [Reply.isNegative] at negative
          | none =>
              obtain ⟨moved, taken⟩ := add_of_none answered
              exact ⟨by rw [if_pos rfl, moved], fun _ => taken⟩
  | removeAuction requester id =>
      change (replica.remove requester id).1.map Reply.removed = _ at served
      change (replica.remove requester id).2 = _ ∧ _
      cases answered : (replica.remove requester id).1 with
      | error overflow => simp [answered, Except.map] at served
      | ok given =>
          rw [answered] at served
          obtain rfl := Except.ok.inj served
          cases given with
          | some auction => simp [Reply.isNegative] at negative
          | none => simp [remove_of_none answered]
  | placeBid id amount name email =>
      change (replica.bid id amount name email).1.map Reply.bid = _ at served
      change (replica.bid id amount name email).2 = _ ∧ _
      cases answered : (replica.bid id amount name email).1 with
      | error overflow => simp [answered, Except.map] at served
      | ok outcome =>
          rw [answered] at served
          obtain rfl := Except.ok.inj served
          have rejected : outcome ≠ .accepted := by
            rintro rfl
            simp [Reply.isNegative] at negative
          simp [bid_of_not_accepted answered rejected]

/-- A replica that may pass one number, with auctions under the first two. -/
def crowded : Replica :=
  ((fresh 0 1).enter 0 [.unbid "Test" ⟨0⟩ "desk" ⟨0⟩, .unbid "Test" ⟨0⟩ "rug" ⟨0⟩]).2

/-- There the search for a free number moves on by one and is given up. -/
theorem serve_of_negative_crowded :
    (crowded.serve (.addAuction (.unbid "Ann" ⟨0⟩ "Lamp" ⟨0⟩))).1 = .ok (.added none) ∧
      (crowded.serve (.addAuction (.unbid "Ann" ⟨0⟩ "Lamp" ⟨0⟩))).2 =
        { crowded with nextId := 1 } ∧
      crowded.auctions.contains 1 = true := by
  have refused : (crowded.serve (.addAuction (.unbid "Ann" ⟨0⟩ "Lamp" ⟨0⟩))).1 =
      .ok (.added none) := by decide +kernel
  have position : crowded.searched = { crowded with nextId := 1 } := by decide +kernel
  obtain ⟨left, taken⟩ := serve_of_negative refused rfl
  rw [if_pos rfl, position] at left
  exact ⟨refused, left, taken rfl 1 (by decide +kernel) (by decide +kernel)⟩

/-- So not every negative answer leaves the state as it was. -/
theorem not_unchanged_of_negative :
    ¬∀ (replica : Replica) (request : Request) (reply : Reply),
      (replica.serve request).1 = .ok reply → reply.isNegative = true →
        (replica.serve request).2.snapshot = replica.snapshot := by
  intro unchanged
  have kept := unchanged crowded (.addAuction (.unbid "Ann" ⟨0⟩ "Lamp" ⟨0⟩)) (.added none)
    (by decide +kernel) rfl
  exact absurd kept (by decide +kernel)

/-! ## Weights that cannot be added up -/

/-- What a request has made of a replica when its weight could not be added up. -/
inductive Interrupted (replica : Replica) : Request → Replica → Prop
  /-- The auction was not entered; the search stands at the number that it would have had. -/
  | addition {auction : Auction} {id : AuctionId} (above : replica.nextId ≤ id)
      (near : id.toNat ≤ replica.nextId.toNat + replica.probeLimit.toNat)
      (passed : replica.auctions.Taken replica.nextId id)
      (free : replica.auctions.contains id = false)
      (heavy : (Change.insert id auction).weight? = none) :
      Interrupted replica (.addAuction auction) { replica with nextId := id }
  /-- The auction was not taken out. -/
  | removal {requester : String} {id : AuctionId} {auction : Auction}
      (listed : replica.auctions.find? id = some auction) (owned : auction.owner = requester)
      (heavy : (Change.remove id requester).weight? = none) :
      Interrupted replica (.removeAuction requester id) replica
  /-- The bid is on the auction, but not in the fingerprint. -/
  | bid {id : AuctionId} {amount : Price} {name email : String} {auction : Auction}
      (listed : replica.auctions.find? id = some auction) (beats : auction.currentPrice < amount)
      (heavy : (Change.bid amount name email).weight? = none) :
      Interrupted replica (.placeBid id amount name email)
        { replica with auctions := replica.auctions.insert id (auction.withBid amount name email) }

theorem Interrupted.fingerprint_eq {request : Request} {after : Replica}
    (interrupted : replica.Interrupted request after) :
    after.fingerprint = replica.fingerprint := by
  cases interrupted with
  | addition => rfl
  | removal => rfl
  | bid => rfl

/-- Only a bid gets into the auctions before it is accounted for. -/
theorem Interrupted.auctions_eq {request : Request} {after : Replica}
    (interrupted : replica.Interrupted request after) (noBid : request.kind ≠ .placeBid) :
    after.auctions = replica.auctions := by
  cases interrupted with
  | addition => rfl
  | removal => rfl
  | bid => exact absurd rfl noBid

end Replica

theorem Fingerprint.record?_eq_none {fingerprint : Fingerprint} {change : Change} :
    fingerprint.record? change = none ↔ change.weight? = none :=
  Option.map_eq_none_iff

namespace Replica

variable {replica : Replica}

/-- An addition is interrupted if a free number is found and the auction weighs too much. -/
theorem add_eq_overflow_iff {auction : Auction} {after : Replica} :
    replica.add auction = (.error .weight, after) ↔
      replica.Interrupted (.addAuction auction) after := by
  constructor
  · intro served
    simp only [add] at served
    split at served
    · rename_i found
      split at served
      · simp at served
      · rename_i unrecorded
        obtain ⟨-, rfl⟩ := Prod.mk.inj served
        obtain ⟨above, near⟩ :=
          replica.auctions.probe_within replica.nextId replica.probeLimit.toNat
        refine .addition above near (replica.auctions.taken_probe _ _) ?_
          (Fingerprint.record?_eq_none.mp unrecorded)
        rw [Catalogue.contains_probe, found]
        rfl
    · simp at served
  · intro interrupted
    obtain ⟨above, near, passed, free, heavy⟩ := interrupted
    have unrecorded : replica.fingerprint.record? _ = none :=
      Fingerprint.record?_eq_none.mpr heavy
    simp only [add, Catalogue.probe_of_taken above near passed free, if_true, unrecorded]

theorem remove_eq_overflow_iff {requester : String} {id : AuctionId} {after : Replica} :
    replica.remove requester id = (.error .weight, after) ↔
      replica.Interrupted (.removeAuction requester id) after := by
  constructor
  · intro served
    simp only [remove] at served
    split at served
    · rename_i auction listed
      split at served
      · rename_i owned
        split at served
        · simp at served
        · rename_i unrecorded
          obtain ⟨-, rfl⟩ := Prod.mk.inj served
          exact .removal listed owned (Fingerprint.record?_eq_none.mp unrecorded)
      · simp at served
    · simp at served
  · intro interrupted
    cases interrupted with
    | removal listed owned heavy =>
        have unrecorded : replica.fingerprint.record? _ = none :=
          Fingerprint.record?_eq_none.mpr heavy
        simp only [remove, listed, if_pos owned, unrecorded]

theorem bid_eq_overflow_iff {id : AuctionId} {amount : Price} {name email : String}
    {after : Replica} :
    replica.bid id amount name email = (.error .weight, after) ↔
      replica.Interrupted (.placeBid id amount name email) after := by
  constructor
  · intro served
    simp only [bid] at served
    split at served
    · rename_i auction listed
      split at served
      · rename_i beats
        split at served
        · simp at served
        · rename_i unrecorded
          obtain ⟨-, rfl⟩ := Prod.mk.inj served
          exact .bid listed beats (Fingerprint.record?_eq_none.mp unrecorded)
      · simp at served
    · simp at served
  · intro interrupted
    cases interrupted with
    | bid listed beats heavy =>
        have unrecorded : replica.fingerprint.record? _ = none :=
          Fingerprint.record?_eq_none.mpr heavy
        simp only [bid, listed, if_pos beats, unrecorded]

private theorem map_eq_overflow_iff {first second : Type} (wrap : first → second)
    (result : Except Overflow first × Replica) (after : Replica) :
    (result.1.map wrap, result.2) = (.error .weight, after) ↔ result = (.error .weight, after) := by
  obtain ⟨answer, left⟩ := result
  cases answer with
  | ok value => simp [Except.map]
  | error overflow => simp [Except.map]

/-- A request gets no reply exactly if it is interrupted. -/
theorem serve_eq_overflow_iff {request : Request} {after : Replica} :
    replica.serve request = (.error .weight, after) ↔ replica.Interrupted request after := by
  cases request with
  | fingerprint =>
      constructor
      · intro served
        simp [serve] at served
      · intro interrupted
        cases interrupted
  | addAuction auction => exact (map_eq_overflow_iff _ _ after).trans add_eq_overflow_iff
  | removeAuction requester id =>
      exact (map_eq_overflow_iff _ _ after).trans remove_eq_overflow_iff
  | placeBid id amount name email =>
      exact (map_eq_overflow_iff _ _ after).trans bid_eq_overflow_iff
  | listings =>
      constructor
      · intro served
        simp [serve] at served
      · intro interrupted
        cases interrupted

/-- What an interrupted request leaves behind: nothing, if it is no bid and if the number at which
the search for a free one begins is free itself. -/
theorem Interrupted.eq_iff {request : Request} {after : Replica}
    (interrupted : replica.Interrupted request after) :
    after = replica ↔ request.kind ≠ .placeBid ∧
      (request.kind = .addAuction → replica.auctions.contains replica.nextId = false) := by
  cases interrupted with
  | removal => simp [Request.kind]
  | @addition auction id above _ passed free _ =>
      have same : { replica with nextId := id } = replica ↔ id = replica.nextId := by
        constructor
        · intro unchanged
          exact congrArg (fun kept : Replica => kept.nextId) unchanged
        · rintro rfl
          rfl
      rw [same]
      constructor
      · rintro rfl
        exact ⟨by simp [Request.kind], fun _ => free⟩
      · rintro ⟨-, begins⟩
        by_cases stays : id = replica.nextId
        · exact stays
        · have below := UInt32.lt_of_le_of_ne above fun equal => stays equal.symm
          have taken := passed replica.nextId (UInt32.le_refl _) below
          rw [begins rfl] at taken
          contradiction
  | @bid id amount name email auction listed beats _ =>
      refine ⟨fun unchanged => ?_, fun excluded => absurd rfl excluded.1⟩
      have found := replica.auctions.find?_insert id id (auction.withBid amount name email)
      have kept : replica.auctions.insert id (auction.withBid amount name email) =
          replica.auctions := congrArg (fun kept : Replica => kept.auctions) unchanged
      rw [kept, if_pos rfl, listed] at found
      have price : auction.currentPrice = amount :=
        congrArg Auction.currentPrice (Option.some.inj found)
      rw [price] at beats
      exact absurd beats amount.lt_irrefl

/-! ## Rows that cannot be entered -/

theorem enter_nil {id : AuctionId} (below : id.toNat + 1 < UInt32.size) :
    replica.enter id [] = (.ok (), replica) := by
  rw [enter, if_pos below]

theorem enter_cons {id : AuctionId} (below : id.toNat + 1 < UInt32.size) {auction : Auction}
    {fingerprint : Fingerprint}
    (recorded : replica.fingerprint.record? (.insert id auction) = some fingerprint)
    (rest : List Auction) :
    replica.enter id (auction :: rest) =
      enter { replica with auctions := replica.auctions.insert id auction, fingerprint } (id + 1)
        rest := by
  rw [enter, if_pos below]
  simp only [recorded]

/-- Nothing is entered under the greatest number. -/
theorem enter_of_last {id : AuctionId} (last : ¬id.toNat + 1 < UInt32.size)
    (auctions : List Auction) : replica.enter id auctions = (.error .weight, replica) := by
  rw [enter.eq_def, if_neg last]

theorem next_add_ofNat (id : AuctionId) (count : Nat) :
    id + UInt32.ofNat (count + 1) = id + 1 + .ofNat count := by
  rw [UInt32.ofNat_add, UInt32.add_comm (.ofNat count), ← UInt32.add_assoc]
  rfl

/-- The number after that of the last row can still be counted. -/
theorem room_of_entered {id : AuctionId} {auctions : List Auction}
    (entered : (replica.enter id auctions).1 = .ok ()) :
    id.toNat + auctions.length + 1 < UInt32.size := by
  fun_induction enter replica id auctions with
  | case1 _ _ below => exact below
  | case2 _ _ below _ _ _ _ induction =>
      have further := induction entered
      rw [Catalogue.toNat_next below] at further
      rw [List.length_cons]
      omega
  | case3 => simp at entered
  | case4 => simp at entered

/-- Rows that are all entered leave the others to be entered after them. -/
theorem enter_append {id : AuctionId} {entered : List Auction} {before : Replica}
    (begun : replica.enter id entered = (.ok (), before)) (rest : List Auction) :
    replica.enter id (entered ++ rest) = before.enter (id + .ofNat entered.length) rest := by
  fun_induction enter replica id entered with
  | case1 =>
      obtain ⟨-, rfl⟩ := Prod.mk.inj begun
      simp
  | case2 replica id below auction others fingerprint recorded induction =>
      rw [List.cons_append, enter_cons below recorded, List.length_cons, next_add_ofNat]
      exact induction begun
  | case3 => simp at begun
  | case4 => simp at begun

/-- Entering rows is interrupted at a row before which all rows are in: it weighs too much, or it is
entered and no number is left to count. -/
theorem enter_eq_overflow_iff {id : AuctionId} (below : id.toNat + 1 < UInt32.size)
    {auctions : List Auction} {after : Replica} :
    replica.enter id auctions = (.error .weight, after) ↔
      ∃ entered auction rest before, auctions = entered ++ auction :: rest ∧
        replica.enter id entered = (.ok (), before) ∧
        ((Change.insert (id + .ofNat entered.length) auction).weight? = none ∧ after = before ∨
          id.toNat + entered.length + 2 = UInt32.size ∧ ∃ fingerprint,
            before.fingerprint.record? (.insert (id + .ofNat entered.length) auction) =
              some fingerprint ∧
            after = { before with
              auctions := before.auctions.insert (id + .ofNat entered.length) auction
              fingerprint }) := by
  constructor
  · intro interrupted
    fun_induction enter replica id auctions with
    | case1 => simp at interrupted
    | case2 replica id _ auction rest fingerprint recorded induction =>
        have number := Catalogue.toNat_next below
        by_cases further : (id + 1).toNat + 1 < UInt32.size
        · obtain ⟨entered, heavy, others, before, rfl, begun, cause⟩ := induction further interrupted
          refine ⟨auction :: entered, heavy, others, before, rfl,
            (enter_cons below recorded entered).trans begun, ?_⟩
          rw [number, Nat.add_right_comm id.toNat] at cause
          rw [List.length_cons, next_add_ofNat, ← Nat.add_assoc]
          exact cause
        · rw [enter_of_last further] at interrupted
          obtain ⟨-, rfl⟩ := Prod.mk.inj interrupted
          refine ⟨[], auction, rest, replica, rfl, enter_nil below, .inr ⟨?_, ?_⟩⟩
          · rw [List.length_nil]
            omega
          · simp [recorded]
    | case3 replica id _ auction rest recorded =>
        obtain ⟨-, rfl⟩ := Prod.mk.inj interrupted
        refine ⟨[], auction, rest, replica, rfl, enter_nil below, .inl ⟨?_, rfl⟩⟩
        simpa using Fingerprint.record?_eq_none.mp recorded
    | case4 => contradiction
  · rintro ⟨entered, auction, rest, before, rfl, begun, cause⟩
    have room := room_of_entered (congrArg Prod.fst begun)
    obtain ⟨number, isNumber⟩ : ∃ number, number = id + UInt32.ofNat entered.length := ⟨_, rfl⟩
    have place : number.toNat = id.toNat + entered.length := by
      rw [isNumber, UInt32.toNat_add, UInt32.toNat_ofNat_of_lt' (by omega),
        Nat.mod_eq_of_lt (Nat.lt_of_succ_lt room)]
    have inside : number.toNat + 1 < UInt32.size := by omega
    rw [enter_append begun, ← isNumber]
    rw [← isNumber] at cause
    rcases cause with ⟨heavy, rfl⟩ | ⟨last, fingerprint, recorded, rfl⟩
    · rw [enter, if_pos inside]
      simp only [Fingerprint.record?_eq_none.mpr heavy]
    · rw [enter_cons inside recorded]
      refine enter_of_last ?_ rest
      rw [Catalogue.toNat_next inside]
      omega

end Replica

theorem Seed.readLines_ne_overflow (number : Nat) (lines : List (List UInt8)) :
    readLines number lines ≠ .error .overflow := by
  intro read
  obtain ⟨_, _, _, -, -, fails⟩ := exists_fails_of_error read
  cases fails

namespace Replica

variable {replica : Replica}

theorem seed_of_error {bytes : List UInt8} {fault : SeedFault}
    (read : Seed.read bytes = .error fault) : replica.seed bytes = (.error fault, replica) := by
  rw [seed, read]

theorem seed_of_read {bytes : List UInt8} {auctions : List Auction}
    (read : Seed.read bytes = .ok auctions) :
    (replica.seed bytes).2 = (replica.enter 0 auctions).2 := by
  rw [seed, read]
  simp only
  split
  · rename_i entered
    rw [entered]
  · rename_i entered
    rw [entered]

/-- Seeding is interrupted at a row before which all rows are in: it weighs too much, or it is
entered and no number is left to count. -/
theorem seed_eq_overflow_iff {bytes : List UInt8} {after : Replica} :
    replica.seed bytes = (.error .overflow, after) ↔
      ∃ entered auction rest before, Seed.read bytes = .ok (entered ++ auction :: rest) ∧
        replica.enter 0 entered = (.ok (), before) ∧
        ((Change.insert (.ofNat entered.length) auction).weight? = none ∧ after = before ∨
          entered.length + 2 = UInt32.size ∧ ∃ fingerprint,
            before.fingerprint.record? (.insert (.ofNat entered.length) auction) =
              some fingerprint ∧
            after = { before with
              auctions := before.auctions.insert (.ofNat entered.length) auction
              fingerprint }) := by
  rw [seed]
  cases read : Seed.read bytes with
  | error fault =>
      have cause : fault ≠ .overflow := by
        rintro rfl
        exact Seed.readLines_ne_overflow _ _ read
      simp [cause]
  | ok auctions =>
      have interrupted : replica.enter 0 auctions = (.error .weight, after) ↔ _ :=
        enter_eq_overflow_iff (by decide)
      simp only [UInt32.zero_add, UInt32.toNat_zero, Nat.zero_add] at interrupted
      simp only [Except.ok.injEq]
      rw [← interrupted]
      obtain ⟨result, left⟩ := replica.enter 0 auctions
      cases result with
      | ok done => simp
      | error overflow => simp

/-- What is left behind where no answer is given.  A request that could not be accounted for leaves
no trace in the fingerprint, and none at all unless it is a bid, which is on the auction by then, or
an addition that had to search for a number, whose position is kept.  Seeding leaves the rows before
the first one that weighs too much; of rows that all have a weight it leaves those under all numbers
but the greatest, if there are so many. -/
theorem left_by_overflow (replica : Replica) :
    (∀ request after,
      (replica.serve request = (.error .weight, after) ↔ replica.Interrupted request after) ∧
        (replica.serve request = (.error .weight, after) →
          after.fingerprint = replica.fingerprint ∧
            (after = replica ↔ request.kind ≠ .placeBid ∧
              (request.kind = .addAuction →
                replica.auctions.contains replica.nextId = false)))) ∧
      ∀ bytes after, replica.seed bytes = (.error .overflow, after) ↔
        ∃ entered auction rest before, Seed.read bytes = .ok (entered ++ auction :: rest) ∧
          replica.enter 0 entered = (.ok (), before) ∧
          ((Change.insert (.ofNat entered.length) auction).weight? = none ∧ after = before ∨
            entered.length + 2 = UInt32.size ∧ ∃ fingerprint,
              before.fingerprint.record? (.insert (.ofNat entered.length) auction) =
                some fingerprint ∧
              after = { before with
                auctions := before.auctions.insert (.ofNat entered.length) auction
                fingerprint }) := by
  refine ⟨fun request after => ⟨serve_eq_overflow_iff, fun served => ?_⟩,
    fun bytes after => seed_eq_overflow_iff⟩
  have interrupted := serve_eq_overflow_iff.mp served
  exact ⟨interrupted.fingerprint_eq, interrupted.eq_iff⟩

/-- A replica with one auction. -/
def furnished : Replica := ((fresh 1000 5000).add (.unbid "Ann" ⟨0⟩ "Lamp" ⟨0⟩)).2

/-- A bid whose hundredths are as many as fit into a word, even without a name. -/
def excessive : Request := .placeBid 1000 ⟨0x43abc16d674ec800⟩ "Bob" "bob@example.com"

/-- The replica with that bid on its auction. -/
def outbid : Replica :=
  { furnished with
    auctions := furnished.auctions.insert 1000
      ((Auction.unbid "Ann" ⟨0⟩ "Lamp" ⟨0⟩).withBid ⟨0x43abc16d674ec800⟩ "Bob"
        "bob@example.com") }

/-- The bid is not accounted for, but it is on the auction. -/
theorem left_by_overflow_excessive :
    furnished.serve excessive = (.error .weight, outbid) ∧
      outbid.fingerprint = furnished.fingerprint ∧ outbid ≠ furnished := by
  have served : furnished.serve excessive = (.error .weight, outbid) := by decide +kernel
  obtain ⟨trace, kept⟩ := ((furnished.left_by_overflow).1 excessive outbid).2 served
  exact ⟨served, trace, fun same => (kept.mp same).1 rfl⟩

/-- So a request that gets no answer may still change the auctions. -/
theorem not_unchanged_of_overflow :
    ¬∀ (replica : Replica) (request : Request) (after : Replica),
      replica.serve request = (.error .weight, after) → after.snapshot = replica.snapshot := by
  intro unchanged
  have kept := unchanged furnished excessive outbid (by decide +kernel)
  exact absurd kept (by decide +kernel)

end Replica
end AuctionHouse
