import AuctionHouse.Group.Address
import AuctionHouse.Group.Ranking

/-!
# Views

A view lists the members of one group, the oldest first.  Each change of the group makes a new
view with the next number.
-/

namespace AuctionHouse

/-- The members of a group at one time. -/
structure View where
  /-- How many changes there have been. -/
  id : Nat
  /-- The members, oldest first. -/
  members : List Address
deriving DecidableEq

namespace View

/-- The view before anybody has joined. -/
def initial : View := ⟨0, []⟩

/-- Whether an address is a member. -/
def contains (view : View) (address : Address) : Bool := decide (address ∈ view.members)

/-- How many members are older than this one. -/
def position? (view : View) (address : Address) : Option Nat :=
  view.members.findIdx? fun member => decide (member = address)

/-- The oldest member apart from one: where that one gets its state from. -/
def oldestOther? (view : View) (me : Address) : Option Address :=
  view.members.find? fun member => decide (member ≠ me)

/-- How many members there are. -/
def size (view : View) : Nat := view.members.length

/-- The next view, with one member more. -/
def joined (view : View) (address : Address) : View := ⟨view.id + 1, view.members ++ [address]⟩

/-- The next view, without one of the members. -/
def left (view : View) (address : Address) : View :=
  ⟨view.id + 1, view.members.filter fun member => member ≠ address⟩

/-- The view as it is shown. -/
def text (view : View) : String :=
  "view #" ++ toString view.id ++ " [" ++ ", ".intercalate (view.members.map Address.text) ++ "]"

/-- After a joining there is one member more. -/
theorem contains_joined (view : View) (address other : Address) :
    (view.joined address).contains other = true ↔ view.contains other = true ∨ other = address := by
  simp [contains, joined]

/-- After a leaving the member is gone, and all others are still there. -/
theorem contains_left (view : View) (address other : Address) :
    (view.left address).contains other = true ↔ view.contains other = true ∧ other ≠ address := by
  simp [contains, left]

end View

/-- Addresses in their order. -/
def Address.sorted (addresses : List Address) : List Address :=
  sortByRank Address.rank addresses

end AuctionHouse
