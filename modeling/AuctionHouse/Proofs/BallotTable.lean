import AuctionHouse.Proofs.Agreement
import AuctionHouse.Proofs.BallotClasses
import AuctionHouse.Proofs.MajorityMasking

/-!
# What a ballot counts

Where values can be compared a ballot is known in full: its values are those that were given, each
at its first appearance, and with each stand all who gave what equals it.  The winning entry is the
one that a single pass through the entries finds that changes its mind only for more voters.  So the
entries before it have fewer voters and those after it no more, and its voters and the dissenters
are together all who voted.  Replies can be compared unless there is an auction among them with a
price that is no number.
-/

namespace AuctionHouse

private theorem eraseDupsBy_loop_concat {element : Type} (same : element → element → Bool)
    (elements kept : List element) (last : element) :
    List.eraseDupsBy.loop same (elements ++ [last]) kept =
      if (List.eraseDupsBy.loop same elements kept).any (same last) then
        List.eraseDupsBy.loop same elements kept
      else List.eraseDupsBy.loop same elements kept ++ [last] := by
  induction elements generalizing kept with
  | nil =>
      simp only [List.nil_append, List.eraseDupsBy.loop, List.any_reverse]
      cases kept.any (same last) with
      | true => rfl
      | false => simp
  | cons head rest induction =>
      by_cases known : kept.any (same head) = true
      · simp only [List.cons_append, List.eraseDupsBy.loop, known]
        exact induction kept
      · simp only [List.cons_append, List.eraseDupsBy.loop, known]
        exact induction (head :: kept)

/-- A last element is kept if it repeats none of those kept before it. -/
theorem eraseDups_concat {element : Type} [BEq element] (elements : List element)
    (last : element) :
    (elements ++ [last]).eraseDups =
      if elements.eraseDups.any fun present => last == present then elements.eraseDups
      else elements.eraseDups ++ [last] :=
  eraseDupsBy_loop_concat _ elements [] last

namespace Ballot

variable {value : Type}

/-! ## The values of the entries -/

section Values

variable [BEq value] {votes : List (Address × value)}

/-- The values of the entries are those of the votes, each at its first appearance. -/
theorem values_tally (comparable : Comparable votes) :
    (tally votes).entries.map Prod.fst = (votes.map Prod.snd).eraseDups := by
  induction votes using List.reverseRecOn with
  | nil => rfl
  | append_singleton votes vote induction =>
      obtain ⟨voter, vote⟩ := vote
      have before := induction comparable.of_append
      have given := (classified_tally comparable.of_append).given
      have newVote : (voter, vote) ∈ votes ++ [(voter, vote)] := by simp
      -- an entry is asked whether it equals the vote, the pass over the values asks the vote
      have turned (present : value) (listed : present ∈ (tally votes).entries.map Prod.fst) :
          (vote == present) = (present == vote) := by
        obtain ⟨cast, isVote, rfl⟩ := given present listed
        have isCast : cast ∈ votes ++ [(voter, vote)] := by simp [isVote]
        exact Bool.eq_iff_iff.mpr ⟨comparable.symm (voter, vote) newVote cast isCast,
          comparable.symm cast isCast (voter, vote) newVote⟩
      rw [entries_tally_append, List.map_append, List.map_singleton, eraseDups_concat, ← before]
      rcases cast_cases voter vote (tally votes).entries with
        ⟨earlier, present, voters, later, split, -, equal, result⟩ | ⟨passed, result⟩
      · have known : ((tally votes).entries.map Prod.fst).any (fun other => vote == other) =
            true := by
          have listed : present ∈ (tally votes).entries.map Prod.fst := by simp [split]
          exact List.any_eq_true.mpr ⟨present, listed, (turned present listed).trans equal⟩
        rw [if_pos known, result, split]
        simp
      · have unknown : ¬((tally votes).entries.map Prod.fst).any (fun other => vote == other) =
            true := by
          rw [List.any_eq_true]
          rintro ⟨present, listed, equal⟩
          obtain ⟨entry, member, rfl⟩ := List.mem_map.mp listed
          rw [turned entry.1 listed, passed entry member] at equal
          contradiction
        rw [if_neg unknown, result, List.map_append]
        rfl

/-- A ballot lists the values in the order of their first appearance, each with all who gave what
equals it. -/
theorem entries_tally (comparable : Comparable votes) :
    (tally votes).entries = (votes.map Prod.snd).eraseDups.map fun present =>
      (present, supporters votes present) := by
  rw [← values_tally comparable, List.map_map]
  refine (List.map_id _).symm.trans (List.map_congr_left fun entry member => ?_)
  exact Prod.ext rfl ((classified_tally comparable).voters entry member)

end Values

/-! ## The whole ballot -/

section Counted

variable [BEq value] {votes : List (Address × value)}

theorem majority?_eq_none_iff : (tally votes).majority? = none ↔ votes = [] := by
  constructor
  · intro nobody
    by_contra nonempty
    obtain ⟨winner, wins⟩ := exists_majority? nonempty
    rw [nobody] at wins
    contradiction
  · rintro rfl
    rfl

/-- A ballot that counts the votes. -/
structure Counts (ballot : Ballot value) (votes : List (Address × value)) : Prop where
  /-- The entries are the classes of the votes. -/
  classes : Classified votes ballot.entries
  /-- The values at their first appearance, each with all who gave what equals it. -/
  entries : ballot.entries = (votes.map Prod.snd).eraseDups.map fun present =>
    (present, supporters votes present)
  /-- Every vote is counted. -/
  respondents : ballot.respondents = votes.length
  /-- There are as many entries as different values. -/
  distinctValues : ballot.distinctValues = (votes.map Prod.snd).eraseDups.length
  /-- The winning entry is found by holding on to one until one with more voters comes. -/
  onePass : ballot.majority? = ballot.entries.argmax fun entry => entry.2.length
  /-- Nobody wins if and only if nobody voted. -/
  deserted : ballot.majority? = none ↔ votes = []
  /-- Nobody dissents where nobody wins. -/
  silent : ballot.majority? = none → ballot.winner? = none ∧ ballot.dissenters = []
  /-- The winning entry is the first of those with most voters, and the voters of the others, in
  the order of the entries, are the dissenters. -/
  elected : ∀ winner, ballot.majority? = some winner → ballot.winner? = some winner.1 ∧
    (∃ before after, ballot.entries = before ++ winner :: after ∧
      (∀ entry ∈ before, entry.2.length < winner.2.length) ∧
        (∀ entry ∈ after, entry.2.length ≤ winner.2.length) ∧
          ballot.dissenters = (before ++ after).flatMap Prod.snd) ∧
    (winner.2 ++ ballot.dissenters).Perm (votes.map Prod.fst)

/-- Where values can be compared the ballot of the votes counts them. -/
theorem counts_tally (comparable : Comparable votes) : (tally votes).Counts votes where
  classes := classified_tally comparable
  entries := entries_tally comparable
  respondents := respondents_tally votes
  distinctValues := by rw [Ballot.distinctValues, entries_tally comparable, List.length_map]
  onePass := majority?_eq_argmax _
  deserted := majority?_eq_none_iff
  silent nobody := by
    obtain rfl := majority?_eq_none_iff.mp nobody
    exact ⟨rfl, rfl⟩
  elected winner wins :=
    ⟨by rw [winner?, wins]; rfl, majority?_between wins, winner_append_dissenters_perm wins⟩

end Counted

end Ballot

/-! ## Replies -/

instance : PartialEquivBEq Price where
  symm {left right} equal := by
    obtain ⟨leftNumber, rightNumber, ranks⟩ := (left.beq_iff right).mp equal
    exact (right.beq_iff left).mpr ⟨rightNumber, leftNumber, ranks.symm⟩
  trans {first second third} equal next := by
    obtain ⟨firstNumber, -, ranks⟩ := (first.beq_iff second).mp equal
    obtain ⟨-, thirdNumber, ranks'⟩ := (second.beq_iff third).mp next
    exact (first.beq_iff third).mpr ⟨firstNumber, thirdNumber, ranks.trans ranks'⟩

/-- Auctions are equal if their prices are equal as numbers and their texts are the same. -/
theorem Auction.beq_iff (left right : Auction) :
    (left == right) = true ↔ (left.currentPrice == right.currentPrice) = true ∧
      (left.reservePrice == right.reservePrice) = true ∧ left.description = right.description ∧
        left.owner = right.owner ∧ left.bidderName = right.bidderName ∧
          left.bidderEmail = right.bidderEmail := by
  change (left.currentPrice == right.currentPrice && (left.reservePrice == right.reservePrice &&
    (left.description == right.description && (left.owner == right.owner &&
      (left.bidderName == right.bidderName && left.bidderEmail == right.bidderEmail))))) = true ↔ _
  simp only [Bool.and_eq_true, beq_iff_eq]

instance : PartialEquivBEq Auction where
  symm {left right} equal := by
    obtain ⟨current, reserve, description, owner, name, email⟩ := (left.beq_iff right).mp equal
    exact (right.beq_iff left).mpr ⟨BEq.symm current, BEq.symm reserve, description.symm,
      owner.symm, name.symm, email.symm⟩
  trans {first second third} equal next := by
    obtain ⟨current, reserve, description, owner, name, email⟩ := (first.beq_iff second).mp equal
    obtain ⟨current', reserve', description', owner', name', email'⟩ :=
      (second.beq_iff third).mp next
    exact (first.beq_iff third).mpr ⟨BEq.trans current current', BEq.trans reserve reserve',
      description.trans description', owner.trans owner', name.trans name', email.trans email'⟩

/-- What equals a reply is the same reply, or both carry auctions that are equal. -/
theorem Reply.beq_cases {left right : Reply} (equal : (left == right) = true) :
    left = right ∨ ∃ former latter, left = .removed (some former) ∧
      right = .removed (some latter) ∧ (former == latter) = true := by
  by_cases carries : ∃ auction, right = .removed (some auction)
  · obtain ⟨latter, rfl⟩ := carries
    obtain ⟨former, isLeft, same⟩ := Reply.eq_removed_of_beq equal
    exact .inr ⟨former, latter, isLeft, rfl, same⟩
  · exact .inl (Reply.eq_of_beq equal fun auction isRight => carries ⟨auction, isRight⟩)

instance : PartialEquivBEq Reply where
  symm {left right} equal := by
    rcases Reply.beq_cases equal with rfl | ⟨former, latter, rfl, rfl, same⟩
    · exact equal
    · exact BEq.symm (α := Auction) same
  trans {first second third} equal next := by
    rcases Reply.beq_cases equal with rfl | ⟨former, latter, rfl, rfl, same⟩
    · exact next
    · obtain ⟨last, rfl, same'⟩ : ∃ last, third = .removed (some last) ∧ (latter == last) = true := by
        rcases Reply.beq_cases next with rfl | ⟨_, last, isLatter, rfl, same'⟩
        · exact ⟨latter, rfl, next⟩
        · obtain rfl := Option.some.inj (Reply.removed.inj isLatter)
          exact ⟨last, rfl, same'⟩
      exact BEq.trans (α := Auction) same same'

namespace Ballot

/-- Replies can be compared if no auction among them has a price that is no number. -/
theorem comparable_of_priced {votes : List (Address × Reply)}
    (priced : ∀ vote ∈ votes, ∀ auction, vote.2 = .removed (some auction) → auction.Priced) :
    Comparable votes where
  refl vote member := vote.2.beq_self_iff.mpr (priced vote member)
  symm _ _ _ _ equal := BEq.symm equal
  trans _ _ _ _ _ _ equal next := BEq.trans equal next

/-- A tie between those who saw no auction and those who saw one that nobody has bid for, at a price
of zero with either sign. -/
def zeroVotes : List (Address × Reply) :=
  [(⟨.rpc, 1⟩, .removed none), (⟨.rpc, 4⟩, .removed (some (.unbid "Zoë" ⟨0⟩ "Lamp" ⟨0⟩))),
    (⟨.rpc, 5⟩, .removed (some (.unbid "Zoë" ⟨0x8000000000000000⟩ "Lamp" ⟨0⟩))),
    (⟨.rpc, 9⟩, .removed none)]

theorem comparable_zeroVotes : Comparable zeroVotes := by
  refine comparable_of_priced fun vote member auction carried => ?_
  simp only [zeroVotes, List.mem_cons, List.not_mem_nil, or_false] at member
  rcases member with rfl | rfl | rfl | rfl
  · simp at carried
  · obtain rfl := Option.some.inj (Reply.removed.inj carried)
    decide
  · obtain rfl := Option.some.inj (Reply.removed.inj carried)
    decide
  · simp at carried

/-- The two zeros make one entry, which has as many voters as the first one and so does not win. -/
theorem counts_tally_zeroVotes :
    Comparable zeroVotes ∧ (tally zeroVotes).Counts zeroVotes ∧
      (tally zeroVotes).entries = [(.removed none, [⟨.rpc, 1⟩, ⟨.rpc, 9⟩]),
        (.removed (some (.unbid "Zoë" ⟨0⟩ "Lamp" ⟨0⟩)), [⟨.rpc, 4⟩, ⟨.rpc, 5⟩])] ∧
      (tally zeroVotes).majority? = some (.removed none, [⟨.rpc, 1⟩, ⟨.rpc, 9⟩]) ∧
      (tally zeroVotes).dissenters = [⟨.rpc, 4⟩, ⟨.rpc, 5⟩] :=
  ⟨comparable_zeroVotes, counts_tally comparable_zeroVotes, by decide +kernel, by decide +kernel,
    by decide +kernel⟩

end Ballot

end AuctionHouse
