import AuctionHouse.Proofs.BallotTable
import AuctionHouse.Proofs.Round

/-!
# Who is told to copy a state

A repair plan goes through an address book.  Where no two entries of the book share a multicast
address, the plan sends to the first voter of the majority exactly those who did not vote with it
and can be addressed, each of them once.  Nobody of the majority is among them, and so nobody is
told to copy his own state.
-/

namespace AuctionHouse

/-- No multicast address belongs to two RPC addresses. -/
def AddressBook.Injective (book : AddressBook) : Prop :=
  ∀ left right target, book.find? left = some target → book.find? right = some target → left = right

/-- An address is noted if it is found. -/
theorem AddressBook.mem_of_find? {book : AddressBook} {rpc multicast : Address}
    (found : book.find? rpc = some multicast) : (rpc, multicast) ∈ book.pairs := by
  obtain ⟨pair, isPair, rfl⟩ := Option.map_eq_some_iff.mp found
  obtain rfl : pair.1 = rpc := by simpa using List.find?_some isPair
  exact List.mem_of_find?_eq_some isPair

/-- A book in which no multicast address is noted twice. -/
theorem AddressBook.injective_of_nodup {book : AddressBook}
    (distinct : (book.pairs.map Prod.snd).Nodup) : book.Injective := by
  intro left right target isLeft isRight
  have same := List.inj_on_of_nodup_map distinct (mem_of_find? isLeft) (mem_of_find? isRight) rfl
  exact congrArg Prod.fst same

namespace Ballot

variable {value : Type} {ballot : Ballot value} {winner : value × List Address}
  {leader source : Address} {book : AddressBook}

/-- If the first voter of the majority is known, all dissenters that are known copy its state. -/
theorem repairPlan_of_known (wins : ballot.majority? = some winner)
    (leads : winner.2.head? = some leader) (known : book.find? leader = some source) :
    ballot.repairPlan book =
      (ballot.dissenters.filterMap book.find?).map fun target => (target, source) := by
  obtain ⟨favoured, voters⟩ := winner
  obtain ⟨rest, rfl⟩ := List.head?_eq_some_iff.mp leads
  simp only [repairPlan, wins, known]

/-- If it is not known, nobody copies anything. -/
theorem repairPlan_of_unknown (wins : ballot.majority? = some winner)
    (leads : winner.2.head? = some leader) (unknown : book.find? leader = none) :
    ballot.repairPlan book = [] := by
  obtain ⟨favoured, voters⟩ := winner
  obtain ⟨rest, rfl⟩ := List.head?_eq_some_iff.mp leads
  simp only [repairPlan, wins, unknown]

theorem repairPlan_of_agreement (agreed : ballot.dissenters = []) : ballot.repairPlan book = [] := by
  have targets := ballot.targets_sublist book
  rw [agreed] at targets
  exact List.map_eq_nil_iff.mp (List.eq_nil_of_sublist_nil targets)

section Tallied

variable [BEq value] {votes : List (Address × value)}

/-- Different dissenters are known under different addresses. -/
theorem repairPlan_targets_nodup (voters : (votes.map Prod.fst).Nodup)
    (injective : book.Injective) : (((tally votes).repairPlan book).map Prod.fst).Nodup := by
  refine (targets_sublist (tally votes) book).nodup ?_
  refine List.pairwise_filterMap.mpr ((dissenters_nodup voters).imp fun {left right} differ => ?_)
  rintro target isLeft _ isRight rfl
  exact differ (injective left right target isLeft isRight)

/-- Whoever agrees with the majority is not told to copy a state. -/
theorem not_mem_targets_of_agreeing (voters : (votes.map Prod.fst).Nodup)
    (injective : book.Injective) (wins : (tally votes).majority? = some winner)
    {voter : Address} (agrees : voter ∈ winner.2) {address : Address}
    (known : book.find? voter = some address) :
    address ∉ ((tally votes).repairPlan book).map Prod.fst := by
  intro targeted
  obtain ⟨dissenter, dissents, same⟩ :=
    List.mem_filterMap.mp ((targets_sublist (tally votes) book).subset targeted)
  obtain rfl := injective dissenter voter address same known
  exact not_mem_winner voters wins dissents agrees

/-- The targets are the addresses of those who gave what differs from the winning value. -/
theorem mem_targets_iff (comparable : Comparable votes) (voters : (votes.map Prod.fst).Nodup)
    (wins : (tally votes).majority? = some winner) (leads : winner.2.head? = some leader)
    (known : book.find? leader = some source) (target : Address) :
    target ∈ ((tally votes).repairPlan book).map Prod.fst ↔
      ∃ vote ∈ votes, (winner.1 == vote.2) = false ∧ book.find? vote.1 = some target := by
  have targets : ((tally votes).repairPlan book).map Prod.fst =
      (tally votes).dissenters.filterMap book.find? := by
    rw [repairPlan_of_known wins leads known, List.map_map]
    exact List.map_id _
  rw [targets, List.mem_filterMap]
  constructor
  · rintro ⟨dissenter, dissents, named⟩
    obtain ⟨vote, member, rfl⟩ := List.mem_map.mp (dissenters_voted dissents)
    exact ⟨vote, member, (mem_dissenters_iff comparable voters wins member).mp dissents, named⟩
  · rintro ⟨vote, member, differs, named⟩
    exact ⟨vote.1, (mem_dissenters_iff comparable voters wins member).mpr differs, named⟩

/-- As soon as anybody votes there is a first voter of the majority. -/
theorem exists_leader (nonempty : votes ≠ []) :
    ∃ winner leader, (tally votes).majority? = some winner ∧ winner.2.head? = some leader := by
  obtain ⟨winner, wins⟩ := exists_majority? nonempty
  obtain ⟨leader, rest, among, -⟩ := winner_founded wins
  exact ⟨winner, leader, wins, by rw [among]; rfl⟩

/-- If the first voter of the majority is known under an address, the plan has all others that are
known copy the state from there, in the order of the dissenters.  They are those whose value
differs from the winning one; none of them is told so twice, and nobody of the majority is told so,
least of all the first voter.  The plan is empty if that one is not known, if all agree and if nobody
voted. -/
theorem repairPlan_targets_minority (comparable : Comparable votes)
    (voters : (votes.map Prod.fst).Nodup) (injective : book.Injective) :
    let plan := (tally votes).repairPlan book
    (votes = [] → plan = []) ∧ ((tally votes).dissenters = [] → plan = []) ∧
      (votes ≠ [] → ∃ winner leader,
        (tally votes).majority? = some winner ∧ winner.2.head? = some leader ∧
          (book.find? leader = none → plan = []) ∧
          ∀ source, book.find? leader = some source →
            plan = ((tally votes).dissenters.filterMap book.find?).map
              (fun target => (target, source)) ∧
            (∀ target, target ∈ plan.map Prod.fst ↔
              ∃ vote ∈ votes, (winner.1 == vote.2) = false ∧ book.find? vote.1 = some target) ∧
            (plan.map Prod.fst).Nodup ∧ source ∉ plan.map Prod.fst ∧
            ∀ voter ∈ winner.2, ∀ address, book.find? voter = some address →
              address ∉ plan.map Prod.fst) := by
  intro plan
  refine ⟨fun deserted => ?_, repairPlan_of_agreement, fun nonempty => ?_⟩
  · subst deserted
    exact repairPlan_of_agreement rfl
  · obtain ⟨winner, leader, wins, leads⟩ := exists_leader nonempty
    refine ⟨winner, leader, wins, leads, repairPlan_of_unknown wins leads, fun source known => ?_⟩
    have spared : ∀ voter ∈ winner.2, ∀ address, book.find? voter = some address →
        address ∉ plan.map Prod.fst := fun voter agrees address known =>
      not_mem_targets_of_agreeing voters injective wins agrees known
    exact ⟨repairPlan_of_known wins leads known,
      mem_targets_iff comparable voters wins leads known,
      repairPlan_targets_nodup voters injective,
      spared leader (List.mem_of_head? leads) source known, spared⟩

end Tallied

/-- Three of five have opened one auction and two have opened another. -/
def splitVotes : List (Address × Reply) :=
  [(⟨.rpc, 1⟩, .added (some 1000)), (⟨.rpc, 2⟩, .added (some 1001)),
    (⟨.rpc, 3⟩, .added (some 1000)), (⟨.rpc, 4⟩, .added (some 1001)),
    (⟨.rpc, 5⟩, .added (some 1000))]

theorem comparable_splitVotes : Comparable splitVotes := by
  refine comparable_of_priced fun vote member auction carried => ?_
  obtain ⟨id, given⟩ : ∃ id, vote.2 = .added id := by
    simp only [splitVotes, List.mem_cons, List.not_mem_nil, or_false] at member
    rcases member with rfl | rfl | rfl | rfl | rfl
    all_goals exact ⟨_, rfl⟩
  rw [given] at carried
  contradiction

/-- Only one of the two is known, and it copies the state of the first of the three, who are left
alone. -/
theorem repairPlan_targets_minority_split :
    let book : AddressBook := ⟨[(⟨.rpc, 1⟩, ⟨.multicast, 11⟩), (⟨.rpc, 3⟩, ⟨.multicast, 13⟩),
      (⟨.rpc, 4⟩, ⟨.multicast, 14⟩), (⟨.rpc, 5⟩, ⟨.multicast, 15⟩)]⟩
    Comparable splitVotes ∧ (splitVotes.map Prod.fst).Nodup ∧ book.Injective ∧
      (tally splitVotes).repairPlan book = [(⟨.multicast, 14⟩, ⟨.multicast, 11⟩)] ∧
      ⟨.multicast, 13⟩ ∉ ((tally splitVotes).repairPlan book).map Prod.fst := by
  intro book
  have voters : (splitVotes.map Prod.fst).Nodup := by decide
  have injective : book.Injective := AddressBook.injective_of_nodup (by decide)
  have winning : (tally splitVotes).majority? =
      some (.added (some 1000), [⟨.rpc, 1⟩, ⟨.rpc, 3⟩, ⟨.rpc, 5⟩]) := by decide +kernel
  obtain ⟨winner, leader, wins, leads, -, repaired⟩ :=
    (repairPlan_targets_minority comparable_splitVotes voters injective).2.2 (by decide)
  obtain rfl := Option.some.inj (winning.symm.trans wins)
  obtain rfl : ⟨.rpc, 1⟩ = leader := Option.some.inj leads
  obtain ⟨plan, -, -, -, spared⟩ := repaired ⟨.multicast, 11⟩ (by decide)
  refine ⟨comparable_splitVotes, voters, injective, ?_,
    spared ⟨.rpc, 3⟩ (by decide) ⟨.multicast, 13⟩ (by decide)⟩
  rw [plan]
  decide +kernel

end Ballot

end AuctionHouse
