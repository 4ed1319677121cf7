import AuctionHouse.Group.AddressBook

/-!
# Ballots

The replies to one request are put to a vote.  A ballot has one entry for each different reply, in
the order in which they were first given, with the addresses that gave it.  The entry with most
voters wins; of several the one that came first.  Who voted otherwise is repaired: told to copy the
state of the first voter of the winning entry.  Votes are put in the order of the view before they
are counted, so the result does not depend on the order of arrival.
-/

namespace AuctionHouse

/-- Votes counted by value. -/
structure Ballot (value : Type) where
  /-- The different values in the order of their first vote, each with its voters. -/
  entries : List (value × List Address)
deriving BEq

namespace Ballot

variable {value : Type} [BEq value]

/-- Counts one vote. -/
def cast (voter : Address) (vote : value) :
    List (value × List Address) → List (value × List Address)
  | [] => [(vote, [voter])]
  | (present, voters) :: rest =>
    if present == vote then (present, voters ++ [voter]) :: rest
    else (present, voters) :: cast voter vote rest

/-- Counts votes in the order given. -/
def tally (votes : List (Address × value)) : Ballot value :=
  ⟨votes.foldl (fun entries vote => cast vote.1 vote.2 entries) []⟩

omit [BEq value]

/-- Whether no entry has more voters than this one. -/
def leads (ballot : Ballot value) (entry : value × List Address) : Bool :=
  ballot.entries.all fun other => other.2.length ≤ entry.2.length

/-- The first of the entries with most voters. -/
def majority? (ballot : Ballot value) : Option (value × List Address) :=
  ballot.entries.find? ballot.leads

/-- The value that wins. -/
def winner? (ballot : Ballot value) : Option value := ballot.majority?.map Prod.fst

/-- The voters of all entries but the winning one. -/
def dissenters (ballot : Ballot value) : List Address :=
  (ballot.entries.eraseP ballot.leads).flatMap Prod.snd

/-- How many different values there are. -/
def distinctValues (ballot : Ballot value) : Nat := ballot.entries.length

/-- How many votes were counted. -/
def respondents (ballot : Ballot value) : Nat :=
  (ballot.entries.flatMap Prod.snd).length

/-- Who has to copy whose state: each dissenter, as far as its multicast address is known, that of
the first voter of the winning value.  If that one's address is unknown nothing can be done. -/
def repairPlan (ballot : Ballot value) (book : AddressBook) : List (Address × Address) :=
  match ballot.majority? with
  | some (_, first :: _) =>
    match book.find? first with
    | some source => (ballot.dissenters.filterMap book.find?).map fun target => (target, source)
    | none => []
  | _ => []

/-- Position of a voter: by place in the view, strangers behind all members, and then by address. -/
def rankIn (view : View) (voter : Address) : Nat :=
  (view.position? voter).getD view.size * (2 * UInt64.size) + voter.rank

/-- Votes in the order in which the voters joined; those of strangers come last, in the order of
their addresses. -/
def inViewOrder (view : View) (votes : List (Address × value)) : List (Address × value) :=
  sortByRank (fun vote => rankIn view vote.1) votes

/-- Different voters have different positions. -/
theorem rankIn_injective {view : View} {left right : Address}
    (same : rankIn view left = rankIn view right) : left = right := by
  have leftBound := left.rank_lt
  have rightBound := right.rank_lt
  simp only [rankIn] at same
  unfold UInt64.size at *
  exact Address.rank_injective (by omega)

end Ballot

end AuctionHouse
