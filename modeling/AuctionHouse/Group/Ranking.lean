/-!
# Ranking

Sorting a list by a number that each of its elements has.  Elements with the same number keep their
order.  The result is the same list up to order, in ascending order of the numbers, and if different
elements have different numbers it does not depend on the order at the start.
-/

namespace AuctionHouse

variable {element : Type}

/-- Puts an element in front of the first one whose number is not less than its own. -/
def insertByRank (rank : element → Nat) (new : element) : List element → List element
  | [] => [new]
  | head :: rest =>
    if rank new ≤ rank head then new :: head :: rest else head :: insertByRank rank new rest

/-- The elements in ascending order of their numbers. -/
def sortByRank (rank : element → Nat) (elements : List element) : List element :=
  elements.foldr (insertByRank rank) []

theorem insertByRank_perm (rank : element → Nat) (new : element) (elements : List element) :
    (insertByRank rank new elements).Perm (new :: elements) := by
  induction elements with
  | nil => exact .refl _
  | cons head rest ih =>
    rw [insertByRank]
    split
    · exact .refl _
    · exact (ih.cons head).trans (.swap new head rest)

/-- Sorting neither loses nor adds anything. -/
theorem sortByRank_perm (rank : element → Nat) (elements : List element) :
    (sortByRank rank elements).Perm elements := by
  induction elements with
  | nil => exact .refl _
  | cons head rest ih =>
    exact (insertByRank_perm rank head (sortByRank rank rest)).trans (ih.cons head)

theorem insertByRank_ascending (rank : element → Nat) (new : element) {elements : List element}
    (ascending : elements.Pairwise fun earlier later => rank earlier ≤ rank later) :
    (insertByRank rank new elements).Pairwise fun earlier later => rank earlier ≤ rank later := by
  induction elements with
  | nil => simp [insertByRank]
  | cons head rest ih =>
    obtain ⟨above, sorted⟩ := List.pairwise_cons.mp ascending
    rw [insertByRank]
    split
    · rename_i below
      refine List.pairwise_cons.mpr ⟨fun later member => ?_, ascending⟩
      rcases List.mem_cons.mp member with rfl | member
      · exact below
      · exact Nat.le_trans below (above later member)
    · rename_i beyond
      refine List.pairwise_cons.mpr ⟨fun later member => ?_, ih sorted⟩
      have either := List.mem_cons.mp ((insertByRank_perm rank new rest).mem_iff.mp member)
      rcases either with rfl | member
      · omega
      · exact above later member

/-- What comes later has no smaller number. -/
theorem sortByRank_ascending (rank : element → Nat) (elements : List element) :
    (sortByRank rank elements).Pairwise fun earlier later => rank earlier ≤ rank later := by
  induction elements with
  | nil => exact .nil
  | cons head rest ih => exact insertByRank_ascending rank head ih

end AuctionHouse
