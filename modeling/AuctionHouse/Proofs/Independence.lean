import Mathlib.Data.List.FinRange
import Mathlib.Data.List.Sort
import Mathlib.Logic.Equiv.Fin.Rotate
import AuctionHouse.Proofs.Exchanges

/-!
# Requests about different auctions

To bid on an auction and to take one out are requests about one number.  What comes of them depends
on nothing but what is filed under that number, and nothing else is changed but the fingerprint,
which adds up in any order.  So what comes of the requests about one number is what would come of
them if there were no others; and wherever the requests about each number keep their order, all of
them get the same replies and leave the same state, however the numbers are interleaved.
-/

namespace AuctionHouse

/-- Two catalogues in which the same is found are the same. -/
theorem Catalogue.ext_find? {value : Type} {left right : Catalogue value}
    (same : ∀ id, left.find? id = right.find? id) : left = right := by
  have members (row : AuctionId × value) : row ∈ left.rows ↔ row ∈ right.rows := by
    rw [← find?_eq_some_iff, same, find?_eq_some_iff]
  have irrefl : Std.Irrefl fun earlier later : AuctionId × value => earlier.1 < later.1 :=
    ⟨fun row => UInt32.lt_irrefl row.1⟩
  have antisymm : Std.Antisymm fun earlier later : AuctionId × value => earlier.1 < later.1 :=
    ⟨fun _ _ below above => absurd above (UInt32.lt_asymm below)⟩
  obtain ⟨rows, ascending⟩ := left
  obtain ⟨others, ascending'⟩ := right
  congr
  exact ascending.eq_of_mem_iff ascending' members

/-! ## Requests about one number -/

/-- The number that a request is about; none if it is about all of them, or about a new one. -/
def Request.target? : Request → Option AuctionId
  | .removeAuction _ id => some id
  | .placeBid id _ _ _ => some id
  | _ => none

/-- A request is about a number. -/
def Request.isAbout (id : AuctionId) (request : Request) : Bool :=
  decide (request.target? = some id)

namespace Replica

variable {replica left right : Replica} {request : Request} {id other : AuctionId}

/-- What comes of a request about a number depends on nothing but what is filed there. -/
theorem serve_congr (about : request.target? = some id)
    (same : left.auctions.find? id = right.auctions.find? id) :
    (left.serve request).1 = (right.serve request).1 ∧
      (left.serve request).2.auctions.find? id = (right.serve request).2.auctions.find? id := by
  cases request with
  | removeAuction requester target =>
      obtain rfl : target = id := Option.some.inj about
      simp only [serve, remove, ← same, Fingerprint.record?]
      cases listed : left.auctions.find? target with
      | none => exact ⟨rfl, listed.trans (same.symm.trans listed).symm⟩
      | some auction =>
          rw [listed] at same
          by_cases owned : auction.owner = requester
          · cases (Change.remove target requester).weight? with
            | none => simp [owned, listed, ← same]
            | some weight => simp [owned, Catalogue.find?_erase]
          · simp [owned, listed, ← same]
  | placeBid target amount name email =>
      obtain rfl : target = id := Option.some.inj about
      simp only [serve, bid, ← same, Fingerprint.record?]
      cases listed : left.auctions.find? target with
      | none => exact ⟨rfl, listed.trans (same.symm.trans listed).symm⟩
      | some auction =>
          rw [listed] at same
          by_cases beats : auction.currentPrice < amount
          · cases (Change.bid amount name email).weight? with
            | none => simp [beats, Catalogue.find?_insert]
            | some weight => simp [beats, Catalogue.find?_insert]
          · simp [beats, listed, ← same]
  | _ => contradiction

/-- A request about a number changes nothing that is filed elsewhere, and no search sets out. -/
theorem serve_elsewhere (about : request.target? = some id) :
    (replica.serve request).2.nextId = replica.nextId ∧
      ∀ other, other ≠ id →
        (replica.serve request).2.auctions.find? other = replica.auctions.find? other := by
  have unchanged : replica.nextId = replica.nextId ∧ ∀ other, other ≠ id →
      replica.auctions.find? other = replica.auctions.find? other := ⟨rfl, fun _ _ => rfl⟩
  cases request with
  | removeAuction requester target =>
      obtain rfl : target = id := Option.some.inj about
      simp only [serve, remove]
      split
      · split
        · split
          · exact ⟨rfl, fun other apart => (Catalogue.find?_erase _ _ _).trans (if_neg apart)⟩
          · exact unchanged
        · exact unchanged
      · exact unchanged
  | placeBid target amount name email =>
      obtain rfl : target = id := Option.some.inj about
      have raised (auction : Auction) (other : AuctionId) (apart : other ≠ target) :
          (replica.auctions.insert target auction).find? other = replica.auctions.find? other :=
        (Catalogue.find?_insert _ _ _ _).trans (if_neg apart)
      simp only [serve, bid]
      split
      · split
        · split
          · exact ⟨rfl, raised _⟩
          · exact ⟨rfl, raised _⟩
        · exact unchanged
      · exact unchanged
  | _ => contradiction

/-! ## Requests about several numbers -/

theorem nextId_afterRequests (requests : List Request)
    (targeted : ∀ request ∈ requests, request.target?.isSome = true) :
    (replica.afterRequests requests).nextId = replica.nextId := by
  induction requests generalizing replica with
  | nil => rfl
  | cons request later induction =>
      obtain ⟨first, others⟩ := List.forall_mem_cons.mp targeted
      obtain ⟨id, about⟩ := Option.isSome_iff_exists.mp first
      exact (induction others).trans (serve_elsewhere about).1

/-- What is filed under a number is what the requests about it would leave there alone. -/
theorem find?_afterRequests_filter (requests : List Request)
    (targeted : ∀ request ∈ requests, request.target?.isSome = true)
    (same : left.auctions.find? id = right.auctions.find? id) :
    (left.afterRequests requests).auctions.find? id =
      (right.afterRequests (requests.filter (Request.isAbout id))).auctions.find? id := by
  induction requests generalizing left right with
  | nil => exact same
  | cons request later induction =>
      obtain ⟨first, others⟩ := List.forall_mem_cons.mp targeted
      by_cases about : request.target? = some id
      · have kept : request.isAbout id = true := decide_eq_true about
        rw [List.filter_cons_of_pos kept]
        exact induction others (serve_congr about same).2
      · have dropped : ¬request.isAbout id = true :=
          fun isAbout => about (of_decide_eq_true isAbout)
        rw [List.filter_cons_of_neg dropped]
        obtain ⟨target, elsewhere⟩ := Option.isSome_iff_exists.mp first
        have apart : id ≠ target := fun equal => about (equal ▸ elsewhere)
        exact induction others (((serve_elsewhere elsewhere).2 id apart).trans same)

/-- The exchanges are the requests with what came of each after those before it. -/
theorem exchanges_eq_ofFn (replica : Replica) (requests : List Request) :
    replica.exchanges requests =
      List.ofFn fun index : Fin requests.length =>
        (requests[index],
          ((replica.afterRequests (requests.take index)).serve requests[index]).1) := by
  induction requests generalizing replica with
  | nil => rfl
  | cons request later induction =>
      rw [exchanges, List.ofFn_succ, induction]
      rfl

end Replica

/-! ## Another order -/

/-- Some requests in another order: each has a place among the others, and those about the same
number come one after the other as they did. -/
structure Reordered (requests others : List Request)
    (place : Fin requests.length ≃ Fin others.length) : Prop where
  request (index : Fin requests.length) : others[place index] = requests[index]
  ascending {former latter : Fin requests.length} (before : former < latter)
    (same : requests[former].target? = requests[latter].target?) : place former < place latter

theorem filter_take_eq_map {element : Type} (elements : List element) (chosen : element → Bool)
    (bound : Nat) :
    (elements.take bound).filter chosen =
      ((List.finRange elements.length).filter fun index =>
        decide (index.val < bound) && chosen elements[index]).map fun index => elements[index] := by
  induction elements generalizing bound with
  | nil => simp
  | cons element later induction =>
      cases bound with
      | zero => simp
      | succ bound =>
          rw [List.take_succ_cons, List.filter_cons, induction]
          simp only [List.length_cons, List.finRange_succ, List.filter_cons, List.filter_map]
          split
          · rename_i first
            simp [first, Function.comp_def]
          · rename_i first
            simp [first, Function.comp_def]

namespace Reordered

variable {requests others : List Request} {place : Fin requests.length ≃ Fin others.length}
  {id : AuctionId}

/-- Of the requests about a number those up to corresponding places are the same in both orders. -/
theorem filter_take_eq (reordered : Reordered requests others place) {bound limit : Nat}
    (aligned : ∀ index : Fin requests.length, requests[index].target? = some id →
      ((place index).val < limit ↔ index.val < bound)) :
    (others.take limit).filter (Request.isAbout id) =
      (requests.take bound).filter (Request.isAbout id) := by
  have chosen (index : Fin requests.length) :
      (decide ((place index).val < limit) && Request.isAbout id others[place index]) =
        (decide (index.val < bound) && Request.isAbout id requests[index]) := by
    rw [reordered.request]
    by_cases about : requests[index].target? = some id
    · rw [decide_eq_decide.mpr (aligned index about)]
    · rw [show Request.isAbout id requests[index] = false from decide_eq_false about,
        Bool.and_false, Bool.and_false]
  have places : ((List.finRange others.length).filter fun index =>
        decide (index.val < limit) && Request.isAbout id others[index]) =
      ((List.finRange requests.length).filter fun index =>
        decide (index.val < bound) && Request.isAbout id requests[index]).map place := by
    have ascending (count : Nat) : (List.finRange count).Pairwise (· < ·) :=
      (List.sortedLT_finRange count).pairwise
    have about {index : Fin requests.length}
        (member : index ∈ (List.finRange requests.length).filter fun index =>
          decide (index.val < bound) && Request.isAbout id requests[index]) :
        requests[index].target? = some id :=
      of_decide_eq_true (Bool.and_eq_true_iff.mp (List.mem_filter.mp member).2).2
    refine ((ascending _).filter _).eq_of_mem_iff (List.pairwise_map.mpr ?_) fun target => ?_
    · exact ((ascending _).filter _).imp_of_mem fun first second before =>
        reordered.ascending before ((about first).trans (about second).symm)
    · obtain ⟨index, rfl⟩ := place.surjective target
      rw [List.mem_filter, chosen, List.mem_map_of_injective place.injective, List.mem_filter]
      simp only [List.mem_finRange]
  rw [filter_take_eq_map, filter_take_eq_map, places, List.map_map]
  exact List.map_congr_left fun index _ => reordered.request index

/-- Up to corresponding places and about the same number there are the same requests. -/
theorem filter_before_eq (reordered : Reordered requests others place)
    {index : Fin requests.length} (about : requests[index].target? = some id) :
    (others.take (place index)).filter (Request.isAbout id) =
      (requests.take index).filter (Request.isAbout id) := by
  refine reordered.filter_take_eq fun other alike => ?_
  have same := alike.trans about.symm
  refine ⟨fun before => ?_, fun before => reordered.ascending before same⟩
  refine Nat.not_le.mp fun after => ?_
  rcases Nat.eq_or_lt_of_le after with equal | behind
  · rw [Fin.ext equal] at before
    exact Nat.lt_irrefl _ before
  · exact Nat.lt_asymm before (reordered.ascending behind same.symm)

theorem filter_eq (reordered : Reordered requests others place) (id : AuctionId) :
    others.filter (Request.isAbout id) = requests.filter (Request.isAbout id) := by
  have whole : (others.take others.length).filter (Request.isAbout id) =
      (requests.take requests.length).filter (Request.isAbout id) :=
    reordered.filter_take_eq fun index _ => iff_of_true (place index).isLt index.isLt
  rwa [List.take_length, List.take_length] at whole

theorem targeted (reordered : Reordered requests others place)
    (targeted : ∀ request ∈ requests, request.target?.isSome = true) :
    ∀ request ∈ others, request.target?.isSome = true := by
  intro request member
  obtain ⟨index, rfl⟩ := List.get_of_mem member
  obtain ⟨former, rfl⟩ := place.surjective index
  have same : others.get (place former) = requests.get former := reordered.request former
  rw [same]
  exact targeted _ (List.get_mem requests former)

end Reordered

/-- Values in another order are a permutation. -/
theorem ofFn_perm_of_places {value : Type} {count count' : Nat} {values : Fin count → value}
    {others : Fin count' → value} (place : Fin count ≃ Fin count')
    (same : ∀ index, others (place index) = values index) :
    (List.ofFn values).Perm (List.ofFn others) := by
  obtain rfl := Fin.equiv_iff_eq.mp ⟨place⟩
  obtain rfl : values = others ∘ place := funext fun index => (same index).symm
  exact Equiv.Perm.ofFn_comp_perm place others

namespace Replica

/-- Requests about different auctions commute.  Whatever bids and removals are served, in another
order that keeps the one of the requests about each number they leave the same state, and each of
them gets the same reply, or none. -/
theorem independent_of_order (replica : Replica) {requests others : List Request}
    (targeted : ∀ request ∈ requests,
      request.kind = .placeBid ∨ request.kind = .removeAuction)
    {place : Fin requests.length ≃ Fin others.length}
    (reordered : Reordered requests others place) :
    (replica.afterRequests others).snapshot = (replica.afterRequests requests).snapshot ∧
      ∀ index : Fin requests.length,
        ((replica.afterRequests (others.take (place index))).serve others[place index]).1 =
          ((replica.afterRequests (requests.take index)).serve requests[index]).1 := by
  have about (request : Request) (member : request ∈ requests) :
      request.target?.isSome = true := by
    rcases targeted request member with bid | removal
    · cases request with
      | placeBid => rfl
      | _ => contradiction
    · cases request with
      | removeAuction => rfl
      | _ => contradiction
  have about' := reordered.targeted about
  have replies (index : Fin requests.length) :
      ((replica.afterRequests (others.take (place index))).serve others[place index]).1 =
        ((replica.afterRequests (requests.take index)).serve requests[index]).1 := by
    rw [reordered.request]
    obtain ⟨id, target⟩ := Option.isSome_iff_exists.mp (about _ (List.getElem_mem index.isLt))
    refine (serve_congr target ?_).1
    rw [find?_afterRequests_filter _ (fun request member => about' _ (List.mem_of_mem_take member))
        rfl,
      find?_afterRequests_filter _ (fun request member => about _ (List.mem_of_mem_take member))
        rfl,
      reordered.filter_before_eq target]
  have exchanged : (replica.exchanges requests).Perm (replica.exchanges others) := by
    rw [exchanges_eq_ofFn, exchanges_eq_ofFn]
    refine ofFn_perm_of_places place fun index => ?_
    rw [replies, reordered.request]
  have auctions : (replica.afterRequests others).auctions =
      (replica.afterRequests requests).auctions := by
    refine Catalogue.ext_find? fun id => ?_
    rw [find?_afterRequests_filter others about' rfl, find?_afterRequests_filter requests about rfl,
      reordered.filter_eq]
  have fingerprint : (replica.afterRequests others).fingerprint =
      (replica.afterRequests requests).fingerprint := by
    have changes : (Exchange.changes (replica.exchanges requests)).Perm
        (Exchange.changes (replica.exchanges others)) := exchanged.filterMap Exchange.change?
    rw [fingerprint_afterRequests, fingerprint_afterRequests, (changes.map Change.weight).sum_eq]
  have position : (replica.afterRequests others).nextId = (replica.afterRequests requests).nextId :=
    (nextId_afterRequests others about').trans (nextId_afterRequests requests about).symm
  refine ⟨?_, replies⟩
  change Snapshot.mk _ _ _ = Snapshot.mk _ _ _
  rw [position, auctions, fingerprint]

/-- A bid that cannot be accounted for may come before the requests about another auction as well as
after them. -/
theorem independent_of_order_interrupted :
    let replica := (furnished.add (.unbid "Eve" ⟨0⟩ "Rug" ⟨0⟩)).2
    let bid : Request := .placeBid 1000 ⟨0x4024000000000000⟩ "Bob" "bob@example.com"
    let removal : Request := .removeAuction "Ann" 1000
    let heavy : Request := .placeBid 1001 ⟨0x43abc16d674ec800⟩ "Zoe" "zoe@example.com"
    (replica.afterRequests [heavy, bid, removal]).snapshot =
        (replica.afterRequests [bid, removal, heavy]).snapshot ∧
      (replica.serve heavy).1 = .error .weight ∧
      ((replica.afterRequests [bid, removal]).serve heavy).1 = (replica.serve heavy).1 := by
  intro replica bid removal heavy
  have reordered : Reordered [bid, removal, heavy] [heavy, bid, removal] (finRotate 3) :=
    ⟨by decide +kernel, by decide +kernel⟩
  obtain ⟨same, replies⟩ := replica.independent_of_order (by decide +kernel) reordered
  exact ⟨same, by decide +kernel, (replies 2).symm⟩

end Replica

end AuctionHouse
