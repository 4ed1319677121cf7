import Mathlib.Data.List.Nodup
import AuctionHouse.Cluster.Coordination
import AuctionHouse.Proofs.PrefixCode

/-!
# Votes in the order of the view

Replies arrive in any order.  Before they are counted they are put in the order of the view: older
members before younger ones, members before strangers, and strangers in the order of their
addresses.  No two voters share a place in this order, so there is one way only to put the votes of
different voters in it, and what a round comes to does not depend on the order of arrival.  Nothing
is asked of the values here; they need not even equal themselves.
-/

namespace AuctionHouse

/-- Where different elements have different numbers, sorting gives the same whatever the order was
before. -/
theorem sortByRank_eq_of_perm {element : Type} {rank : element → Nat}
    {elements others : List element}
    (different : ∀ left ∈ elements, ∀ right ∈ elements, rank left = rank right → left = right)
    (reordered : others.Perm elements) : sortByRank rank others = sortByRank rank elements := by
  have same : (sortByRank rank others).Perm (sortByRank rank elements) :=
    (sortByRank_perm rank others).trans
      (reordered.trans (sortByRank_perm rank elements).symm)
  refine same.eq_of_pairwise (fun left right isLeft isRight below above => ?_)
    (sortByRank_ascending rank others) (sortByRank_ascending rank elements)
  have fromOthers := (sortByRank_perm rank others).mem_iff.mp isLeft
  exact different left (reordered.mem_iff.mp fromOthers) right
    ((sortByRank_perm rank elements).mem_iff.mp isRight) (Nat.le_antisymm below above)

/-- One voter comes before another: an older member before a younger one, a member before a
stranger, and of two strangers the one with the smaller address. -/
def View.Precedes (view : View) (former latter : Address) : Prop :=
  match view.position? former, view.position? latter with
  | some older, some younger => older < younger
  | some _, none => True
  | none, some _ => False
  | none, none => former.rank < latter.rank

instance (view : View) (former latter : Address) : Decidable (view.Precedes former latter) := by
  unfold View.Precedes
  split <;> infer_instance

theorem View.position?_lt {view : View} {address : Address} {place : Nat}
    (found : view.position? address = some place) : place < view.size := by
  obtain ⟨inside, -⟩ := List.findIdx?_eq_some_iff_getElem.mp found
  exact inside

/-- Only the member itself stands in the place of a member. -/
theorem View.eq_of_position? {view : View} {left right : Address} {place : Nat}
    (isLeft : view.position? left = some place) (isRight : view.position? right = some place) :
    left = right := by
  obtain ⟨_, leftThere, -⟩ := List.findIdx?_eq_some_iff_getElem.mp isLeft
  obtain ⟨_, rightThere, -⟩ := List.findIdx?_eq_some_iff_getElem.mp isRight
  simp only [decide_eq_true_eq] at leftThere rightThere
  exact leftThere.symm.trans rightThere

namespace Ballot

/-- The positions by which votes are sorted are those of the voters in the view. -/
theorem precedes_of_rankIn_lt {view : View} {former latter : Address}
    (below : rankIn view former < rankIn view latter) : view.Precedes former latter := by
  have formerBound := former.rank_lt
  have latterBound := latter.rank_lt
  simp only [rankIn] at below
  unfold UInt64.size at *
  rw [View.Precedes]
  cases isFormer : view.position? former with
  | some older =>
      cases isLatter : view.position? latter with
      | none => trivial
      | some younger =>
          simp only [isFormer, isLatter, Option.getD_some] at below ⊢
          have apart : older ≠ younger := by
            rintro rfl
            obtain rfl := View.eq_of_position? isFormer isLatter
            exact Nat.lt_irrefl _ below
          omega
  | none =>
      cases isLatter : view.position? latter with
      | none =>
          simp only [isFormer, isLatter, Option.getD_none] at below ⊢
          omega
      | some younger =>
          have inside := View.position?_lt isLatter
          simp only [isFormer, isLatter, Option.getD_none, Option.getD_some] at below ⊢
          omega

variable {value : Type} {votes arrived : List (Address × value)}

theorem inViewOrder_perm (view : View) (votes : List (Address × value)) :
    (inViewOrder view votes).Perm votes := sortByRank_perm _ votes

/-- Votes of different voters are put in the order of the voters. -/
theorem inViewOrder_precedes (view : View) (voters : (votes.map Prod.fst).Nodup) :
    ((inViewOrder view votes).map Prod.fst).Pairwise view.Precedes := by
  have distinct : ((inViewOrder view votes).map Prod.fst).Nodup :=
    ((inViewOrder_perm view votes).map Prod.fst).nodup_iff.mpr voters
  have ascending := sortByRank_ascending (fun vote => rankIn view vote.1) votes
  refine List.pairwise_map.mpr ?_
  refine (ascending.and (List.pairwise_map.mp distinct)).imp fun {former latter} facts => ?_
  obtain ⟨below, apart⟩ := facts
  refine precedes_of_rankIn_lt (Nat.lt_of_le_of_ne below fun same => ?_)
  exact apart (rankIn_injective same)

/-- Votes of different voters can be put in the order of the view in one way only. -/
theorem inViewOrder_eq_of_perm (view : View) (voters : (votes.map Prod.fst).Nodup)
    (reordered : arrived.Perm votes) : inViewOrder view arrived = inViewOrder view votes :=
  sortByRank_eq_of_perm
    (fun _ isLeft _ isRight same =>
      List.inj_on_of_nodup_map voters isLeft isRight (rankIn_injective same)) reordered

/-- The votes of different voters are counted in the order of the view.  Whatever the order in which
they arrive, the same value wins, and whatever addresses are known the same members are told to copy
the states of the same others, in the same order. -/
theorem independent_of_arrival [BEq value] (view : View) (voters : (votes.map Prod.fst).Nodup) :
    (inViewOrder view votes).Perm votes ∧
      ((inViewOrder view votes).map Prod.fst).Pairwise view.Precedes ∧
        ∀ arrived : List (Address × value), arrived.Perm votes →
          (tally (inViewOrder view arrived)).winner? = (tally (inViewOrder view votes)).winner? ∧
            ∀ book, (tally (inViewOrder view arrived)).repairPlan book =
              (tally (inViewOrder view votes)).repairPlan book := by
  refine ⟨inViewOrder_perm view votes, inViewOrder_precedes view voters,
    fun arrived reordered => ?_⟩
  rw [inViewOrder_eq_of_perm view voters reordered]
  exact ⟨rfl, fun _ => rfl⟩

/-- Four replies of which no two are equal, as both auctions have a price that is no number. -/
def pricelessVotes : List (Address × Reply) :=
  [(⟨.rpc, 7⟩, .removed none), (⟨.rpc, 5⟩, .removed (some .priceless)),
    (⟨.rpc, 4⟩, .added none), (⟨.rpc, 9⟩, .removed (some .priceless))]

/-- The reply of the oldest member wins, whoever was the first to reply.  The other member and the
two strangers copy its state, the younger stranger last. -/
theorem independent_of_arrival_priceless :
    let view : View := ⟨3, [⟨.rpc, 9⟩, ⟨.rpc, 2⟩, ⟨.rpc, 5⟩]⟩
    let book : AddressBook := ⟨[(⟨.rpc, 4⟩, ⟨.multicast, 3⟩), (⟨.rpc, 5⟩, ⟨.multicast, 1⟩),
      (⟨.rpc, 7⟩, ⟨.multicast, 6⟩), (⟨.rpc, 9⟩, ⟨.multicast, 8⟩)]⟩
    (pricelessVotes.map Prod.fst).Nodup ∧ ∀ arrived, arrived.Perm pricelessVotes →
      (tally (inViewOrder view arrived)).winner? = some (.removed (some .priceless)) ∧
        (tally (inViewOrder view arrived)).repairPlan book =
          [(⟨.multicast, 1⟩, ⟨.multicast, 8⟩), (⟨.multicast, 3⟩, ⟨.multicast, 8⟩),
            (⟨.multicast, 6⟩, ⟨.multicast, 8⟩)] := by
  intro view book
  have voters : (pricelessVotes.map Prod.fst).Nodup := by decide
  refine ⟨voters, fun arrived reordered => ?_⟩
  obtain ⟨winner, plans⟩ := (independent_of_arrival view voters).2.2 arrived reordered
  rw [winner, plans book]
  decide +kernel

end Ballot

end AuctionHouse
