import AuctionHouse.Group.View

/-!
# Address books

Which multicast address belongs to which RPC address, as far as it has been announced.
-/

namespace AuctionHouse

/-- RPC addresses with the multicast addresses announced for them. -/
structure AddressBook where
  /-- The pairs; an RPC address occurs once at most. -/
  pairs : List (Address × Address)

namespace AddressBook

/-- The book in which nothing is noted. -/
def empty : AddressBook := ⟨[]⟩

/-- The multicast address of an RPC address. -/
def find? (book : AddressBook) (rpc : Address) : Option Address :=
  (book.pairs.find? fun pair => decide (pair.1 = rpc)).map Prod.snd

/-- Notes a pair, in place of the one with the same RPC address. -/
def insert (book : AddressBook) (rpc multicast : Address) : AddressBook :=
  ⟨(rpc, multicast) :: book.pairs.filter fun pair => pair.1 ≠ rpc⟩

/-- Keeps the pairs whose RPC address is still a member. -/
def restrict (book : AddressBook) (view : View) : AddressBook :=
  ⟨book.pairs.filter fun pair => view.contains pair.1⟩

/-- The book of a list of pairs, of which later ones replace earlier ones. -/
def ofList (pairs : List (Address × Address)) : AddressBook :=
  pairs.foldl (fun book pair => book.insert pair.1 pair.2) empty

@[simp]
theorem find?_empty (rpc : Address) : empty.find? rpc = none := rfl

/-- After noting a pair it is found, and everything else is as before. -/
theorem find?_insert (book : AddressBook) (rpc multicast other : Address) :
    (book.insert rpc multicast).find? other =
      if other = rpc then some multicast else book.find? other := by
  by_cases same : other = rpc
  · simp [find?, insert, same]
  · have different : rpc ≠ other := fun equal => same equal.symm
    simp only [find?, insert, same, if_false]
    rw [List.find?_cons_of_neg (by simpa using different), List.find?_filter]
    congr 1
    refine congrArg (fun test => book.pairs.find? test) (funext fun pair => ?_)
    by_cases found : pair.1 = other
    · simp [found, same]
    · simp [found]

/-- After a restriction exactly the pairs of members are found. -/
theorem find?_restrict (book : AddressBook) (view : View) (rpc : Address) :
    (book.restrict view).find? rpc = if view.contains rpc then book.find? rpc else none := by
  simp only [find?, restrict]
  rw [List.find?_filter]
  by_cases member : view.contains rpc = true
  · rw [if_pos member]
    congr 1
    refine congrArg (fun test => book.pairs.find? test) (funext fun pair => ?_)
    by_cases found : pair.1 = rpc
    · simp [found, member]
    · simp [found]
  · rw [if_neg member, List.find?_eq_none.mpr]
    · rfl
    · intro pair _ kept
      simp only [decide_eq_true_eq] at kept
      exact member (kept.2 ▸ kept.1)

end AddressBook

end AuctionHouse
