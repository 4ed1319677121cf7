import Mathlib.Logic.Relation
import AuctionHouse.Proofs.Numbering

/-!
# Which number a new auction gets

Before a new auction can be filed, the numbers that are live in a row from the position of the
search on have to be passed.  If the search may pass that many, and there is a number behind them,
then that one is given out: it is the least free number from the position on.  Otherwise the search
is given up, and nothing but its position has changed.

The search itself goes from number to number.  Each turn passes one, and no search may pass more
than its limit; so it ends, wherever it begins, and where it ends is what `Catalogue.probe` finds.
-/

namespace AuctionHouse

open Relation (ReflTransGen)

/-! ## Numbers in a row -/

namespace Catalogue

variable {auctions : Catalogue Auction} {id : AuctionId}

/-- How many numbers in a row are live, from one on. -/
def streak (auctions : Catalogue Auction) (id : AuctionId) : Nat :=
  ((List.range' id.toNat (UInt32.size - id.toNat)).takeWhile fun number =>
    auctions.contains (.ofNat number)).length

theorem streak_eq_findIdx (auctions : Catalogue Auction) (id : AuctionId) :
    auctions.streak id =
      (List.range' id.toNat (UInt32.size - id.toNat)).findIdx fun number =>
        !auctions.contains (.ofNat number) := by
  rw [streak, List.takeWhile_eq_take_findIdx_not, List.length_take]
  exact Nat.min_eq_left List.findIdx_le_length

theorem contains_of_lt_streak {number : AuctionId} (above : id ≤ number)
    (inside : number.toNat < id.toNat + auctions.streak id) :
    auctions.contains number = true := by
  have atLeast := UInt32.le_iff_toNat_le.mp above
  have place : number.toNat - id.toNat < auctions.streak id := by omega
  rw [streak_eq_findIdx] at place
  have live := List.not_of_lt_findIdx place
  rw [List.getElem_range', Nat.one_mul, Nat.add_sub_cancel' atLeast, UInt32.ofNat_toNat] at live
  simpa using live

/-- The number behind those that are live in a row is free. -/
theorem contains_of_eq_streak {number : AuctionId}
    (behind : number.toNat = id.toNat + auctions.streak id) :
    auctions.contains number = false := by
  have bound : number.toNat < UInt32.size := number.toNat_lt_size
  rw [streak_eq_findIdx] at behind
  have inside : (List.range' id.toNat (UInt32.size - id.toNat)).findIdx
      (fun number => !auctions.contains (.ofNat number)) <
        (List.range' id.toNat (UInt32.size - id.toNat)).length := by
    rw [List.length_range']
    omega
  have free := List.findIdx_getElem (w := inside)
  rw [List.getElem_range', Nat.one_mul, ← behind, UInt32.ofNat_toNat] at free
  simpa using free

/-- Numbers that are all live do not reach beyond the ones in a row. -/
theorem le_add_streak_of_taken {stop : AuctionId} (taken : auctions.Taken id stop) :
    stop.toNat ≤ id.toNat + auctions.streak id := by
  by_contra! beyond
  have bound : stop.toNat < UInt32.size := stop.toNat_lt_size
  obtain ⟨behind, value⟩ : ∃ behind : AuctionId,
      behind.toNat = id.toNat + auctions.streak id :=
    ⟨.ofNat _, UInt32.toNat_ofNat_of_lt' (by omega)⟩
  have live := taken behind (UInt32.le_iff_toNat_le.mpr (by omega))
    (UInt32.lt_iff_toNat_lt.mpr (by omega))
  rw [contains_of_eq_streak value] at live
  contradiction

/-- So the first number that is free is the one behind those in a row. -/
theorem eq_add_streak {free : AuctionId} (above : id ≤ free) (taken : auctions.Taken id free)
    (isFree : auctions.contains free = false) :
    free.toNat = id.toNat + auctions.streak id := by
  refine Nat.le_antisymm (le_add_streak_of_taken taken) (Nat.not_lt.mp fun inside => ?_)
  rw [contains_of_lt_streak above inside] at isFree
  contradiction

end Catalogue

/-! ## The search, turn by turn -/

/-- How far a search for a free number has come. -/
structure Search where
  /-- How many numbers it has passed. -/
  passed : Nat
  /-- The number at hand. -/
  id : AuctionId

namespace Search

/-- One turn of a search with a limit: the number at hand is live, the search may pass it, and there
is a next one. -/
inductive Passes (auctions : Catalogue Auction) (limit : Nat) : Search → Search → Prop
  | turn {passed : Nat} {id : AuctionId} (live : auctions.contains id = true)
      (allowed : passed < limit) (further : id.toNat + 1 < UInt32.size) :
      Passes auctions limit ⟨passed, id⟩ ⟨passed + 1, id + 1⟩

variable {auctions : Catalogue Auction} {limit : Nat}

/-- A search ends here. -/
def Ends (auctions : Catalogue Auction) (limit : Nat) (search : Search) : Prop :=
  ∀ next, ¬Passes auctions limit search next

/-- No search goes on for ever. -/
theorem wellFounded_passes (auctions : Catalogue Auction) (limit : Nat) :
    WellFounded fun later earlier => Passes auctions limit earlier later := by
  refine Subrelation.wf ?_ (measure fun search : Search => limit - search.passed).wf
  rintro _ _ ⟨live, allowed, further⟩
  exact Nat.sub_succ_lt_self _ _ allowed

theorem exists_end (auctions : Catalogue Auction) (limit : Nat) (search : Search) :
    ∃ last, ReflTransGen (Passes auctions limit) search last ∧ last.Ends auctions limit := by
  induction search using (wellFounded_passes auctions limit).induction with
  | _ search induction =>
      by_cases ends : search.Ends auctions limit
      · exact ⟨search, .refl, ends⟩
      · obtain ⟨next, passes⟩ := not_forall_not.mp ends
        obtain ⟨last, path, ends⟩ := induction next passes
        exact ⟨last, .head passes path, ends⟩

theorem Passes.le_limit {search next : Search} (passes : Passes auctions limit search next) :
    next.passed ≤ limit := by
  cases passes with
  | turn live allowed further => exact allowed

/-- What is found is the number at which the turns end, if that one is free. -/
theorem probe_of_ends {search last : Search}
    (path : ReflTransGen (Passes auctions limit) search last) (ends : last.Ends auctions limit)
    (allowed : search.passed ≤ limit) :
    auctions.probe search.id (limit - search.passed) =
      (!auctions.contains last.id, last.id) := by
  induction path using ReflTransGen.head_induction_on with
  | refl =>
      obtain ⟨passed, id⟩ := last
      cases budget : limit - passed with
      | zero => rfl
      | succ budget =>
          rw [Catalogue.probe]
          split
          · rename_i live
            rw [if_neg fun further => ends _ (.turn live (by omega) further), live]
            rfl
          · rename_i free
            rw [Bool.eq_false_of_not_eq_true free]
            rfl
  | head passes _ induction =>
      have further := induction passes.le_limit
      cases passes with
      | @turn passed id live below inside =>
          obtain ⟨budget, isBudget⟩ : ∃ budget, limit - passed = budget + 1 :=
            ⟨limit - passed - 1, by omega⟩
          have rest : limit - (passed + 1) = budget := by omega
          rw [rest] at further
          rw [isBudget, Catalogue.probe, if_pos live, if_pos inside]
          exact further

end Search

/-! ## What an addition does -/

namespace Replica

variable {replica : Replica} {auction : Auction} {id : AuctionId}

theorem nextId_add (replica : Replica) (auction : Auction) :
    (replica.add auction).2.nextId =
      (replica.auctions.probe replica.nextId replica.probeLimit.toNat).2 := by
  simp only [add]
  split
  · split
    · rfl
    · rfl
  · rfl

/-- What an addition gets is the number behind those that are live in a row. -/
theorem toNat_of_added (added : (replica.add auction).1 = .ok (some id)) :
    replica.auctions.streak replica.nextId ≤ replica.probeLimit.toNat ∧
      id.toNat = replica.nextId.toNat + replica.auctions.streak replica.nextId := by
  have carried := carriesOut_add added
  generalize (replica.add auction).2 = after at carried
  cases carried with
  | addition above near passed free =>
      have value := Catalogue.eq_add_streak above passed free
      exact ⟨by omega, value⟩

/-- If the search may pass the numbers that are live in a row, an auction that can be accounted for
gets the number behind them. -/
theorem added_of_toNat
    (allowed : replica.auctions.streak replica.nextId ≤ replica.probeLimit.toNat)
    (behind : id.toNat = replica.nextId.toNat + replica.auctions.streak replica.nextId)
    (light : (Change.insert id auction).weight? ≠ none) :
    (replica.add auction).1 = .ok (some id) := by
  obtain ⟨weight, weighed⟩ := Option.ne_none_iff_exists'.mp light
  obtain rfl := Change.weight?_eq_some weighed
  have above : replica.nextId ≤ id := UInt32.le_iff_toNat_le.mpr (by omega)
  have near : id.toNat ≤ replica.nextId.toNat + replica.probeLimit.toNat := by omega
  have passed : replica.auctions.Taken replica.nextId id := fun number after before =>
    Catalogue.contains_of_lt_streak after (behind ▸ UInt32.lt_iff_toNat_lt.mp before)
  have free := Catalogue.contains_of_eq_streak behind
  have carried := CarriesOut.addition above near passed free weighed
  have served : (replica.add auction).1.map Reply.added = .ok (.added (some id)) :=
    congrArg Prod.fst carried.serve_eq
  obtain ⟨given, answered, isAdded⟩ := exists_of_map served
  rw [answered, Reply.added.inj isAdded]

/-- The search is given up if there are too many numbers in a row, or none behind them. -/
theorem refused_of_streak (auction : Auction)
    (far : replica.probeLimit.toNat < replica.auctions.streak replica.nextId ∨
      UInt32.size ≤ replica.nextId.toNat + replica.auctions.streak replica.nextId) :
    (replica.add auction).1 = .ok none := by
  refine add_eq_none_iff.mpr (Bool.eq_false_of_not_eq_true fun found => ?_)
  obtain ⟨above, near⟩ := replica.auctions.probe_within replica.nextId replica.probeLimit.toNat
  have passed := replica.auctions.taken_probe replica.nextId replica.probeLimit.toNat
  have free := replica.auctions.contains_probe replica.nextId replica.probeLimit.toNat
  rw [found] at free
  have value := Catalogue.eq_add_streak above passed free
  have bound : (replica.auctions.probe replica.nextId replica.probeLimit.toNat).2.toNat <
      UInt32.size := UInt32.toNat_lt_size _
  omega

/-- What an addition does.  Let so many numbers be live in a row from the position of the search on.
An auction that can be accounted for gets the number behind them exactly if the search may pass that
many and there is such a number.  It is then the least free one from the position on; the search
stands there, the auction is filed there, and every other one is where it was.  Otherwise there is
no number, and neither an auction nor the fingerprint has changed.  In any case the search goes turn
by turn to an end: where the next one begins. -/
theorem allocation (replica : Replica) (auction : Auction) :
    let row := replica.auctions.streak replica.nextId
    let limit := replica.probeLimit.toNat
    let after := (replica.add auction).2
    ((∀ id : AuctionId, id.toNat = replica.nextId.toNat + row →
        (Change.insert id auction).weight? ≠ none) →
      (∀ id : AuctionId, (replica.add auction).1 = .ok (some id) ↔
          row ≤ limit ∧ id.toNat = replica.nextId.toNat + row) ∧
        (∀ id : AuctionId, (replica.add auction).1 = .ok (some id) →
          replica.auctions.contains id = false ∧
            (∀ other, replica.nextId ≤ other → replica.auctions.contains other = false →
              id ≤ other) ∧
            after.nextId = id ∧
            ∀ other, after.auctions.find? other =
              if other = id then some auction else replica.auctions.find? other) ∧
        (limit < row ∨ UInt32.size ≤ replica.nextId.toNat + row →
          (replica.add auction).1 = .ok none ∧ after.auctions = replica.auctions ∧
            after.fingerprint = replica.fingerprint)) ∧
      (WellFounded fun later earlier => Search.Passes replica.auctions limit earlier later) ∧
      ∃ last, ReflTransGen (Search.Passes replica.auctions limit) ⟨0, replica.nextId⟩ last ∧
        last.Ends replica.auctions limit ∧ after.nextId = last.id ∧
        ((replica.add auction).1 = .ok none ↔ replica.auctions.contains last.id = true) := by
  intro row limit after
  refine ⟨fun light => ⟨fun id => ⟨toNat_of_added, ?_⟩, fun id added => ?_, fun far => ?_⟩,
    Search.wellFounded_passes _ _, ?_⟩
  · rintro ⟨allowed, behind⟩
    exact added_of_toNat allowed behind (light id behind)
  · have behind := (toNat_of_added added).2
    have carried := carriesOut_add added
    change replica.CarriesOut _ _ _ after at carried
    generalize after = after at carried
    cases carried with
    | addition above near passed free light =>
        have least (other : AuctionId) (atLeast : replica.nextId ≤ other)
            (isFree : replica.auctions.contains other = false) : id ≤ other := by
          refine UInt32.not_lt.mp fun below => ?_
          rw [passed other atLeast below] at isFree
          contradiction
        exact ⟨free, least, rfl, fun other => Catalogue.find?_insert _ _ _ _⟩
  · have refused := refused_of_streak auction far
    have left := (add_of_none refused).1
    exact ⟨refused, congrArg (·.auctions) left, congrArg (·.fingerprint) left⟩
  · obtain ⟨last, path, ends⟩ := Search.exists_end replica.auctions limit ⟨0, replica.nextId⟩
    have found : replica.auctions.probe replica.nextId limit =
        (!replica.auctions.contains last.id, last.id) :=
      Search.probe_of_ends path ends (Nat.zero_le limit)
    refine ⟨last, path, ends, ?_, ?_⟩
    · exact (replica.nextId_add auction).trans (congrArg Prod.snd found)
    · rw [add_eq_none_iff, found, Bool.not_eq_false']

/-- Two numbers in a row are too many for a search that may pass one; a search that may pass two
finds the number behind them. -/
theorem allocation_crowded :
    let lamp : Auction := .unbid "Ann" ⟨0⟩ "Lamp" ⟨0⟩
    let roomy : Replica := { crowded with probeLimit := 2 }
    crowded.auctions.streak 0 = 2 ∧ (crowded.add lamp).1 = .ok none ∧
      (roomy.add lamp).1 = .ok (some 2) ∧ (roomy.add lamp).2.auctions.find? 2 = some lamp := by
  intro lamp roomy
  have row : crowded.auctions.streak 0 = 2 := by decide +kernel
  have third : (2 : AuctionId).toNat = (0 : AuctionId).toNat + crowded.auctions.streak 0 := by
    rw [row]
    rfl
  have light (id : AuctionId)
      (behind : id.toNat = (0 : AuctionId).toNat + crowded.auctions.streak 0) :
      (Change.insert id lamp).weight? ≠ none := by
    obtain rfl := UInt32.toNat_inj.mp (behind.trans third.symm)
    decide +kernel
  obtain ⟨-, -, refused⟩ := (crowded.allocation lamp).1 light
  obtain ⟨gets, filed, -⟩ := (roomy.allocation lamp).1 light
  have added : (roomy.add lamp).1 = .ok (some 2) := (gets 2).mpr ⟨row.le, third⟩
  have many : crowded.probeLimit.toNat < crowded.auctions.streak 0 := by
    rw [row]
    decide
  refine ⟨row, (refused (.inl many)).1, added, ?_⟩
  rw [(filed 2 added).2.2.2 2, if_pos rfl]

end Replica

end AuctionHouse
