import AuctionHouse.Proofs.BallotCount

/-!
# Votes by class

Where the values of the votes can be compared, that is, where `==` is an equivalence among them, an
entry has exactly the voters whose value equals its own, and the entries stand in the order in which
their values were first given.  So the winning value is a most frequent one, and of several such
values the one that was given first.
-/

namespace AuctionHouse.Ballot

variable {value : Type} [BEq value]

/-- Among the values of the votes `==` is an equivalence. -/
structure Comparable (votes : List (Address × value)) : Prop where
  refl : ∀ vote ∈ votes, (vote.2 == vote.2) = true
  symm : ∀ left ∈ votes, ∀ right ∈ votes,
    (left.2 == right.2) = true → (right.2 == left.2) = true
  trans : ∀ first ∈ votes, ∀ second ∈ votes, ∀ third ∈ votes,
    (first.2 == second.2) = true → (second.2 == third.2) = true → (first.2 == third.2) = true

/-- The place of the first vote that equals a value. -/
def firstSeen (votes : List (Address × value)) (wanted : value) : Nat :=
  votes.findIdx fun vote => wanted == vote.2

/-- Who gave what equals a value. -/
def supporters (votes : List (Address × value)) (wanted : value) : List Address :=
  (votes.filter fun vote => wanted == vote.2).map Prod.fst

theorem Comparable.of_append {votes more : List (Address × value)}
    (comparable : Comparable (votes ++ more)) : Comparable votes where
  refl vote member := comparable.refl vote (by simp [member])
  symm left isLeft right isRight :=
    comparable.symm left (by simp [isLeft]) right (by simp [isRight])
  trans first isFirst second isSecond third isThird :=
    comparable.trans first (by simp [isFirst]) second (by simp [isSecond]) third (by simp [isThird])

private theorem firstSeen_lt {votes : List (Address × value)} {wanted : value}
    (seen : ∃ vote ∈ votes, (wanted == vote.2) = true) :
    firstSeen votes wanted < votes.length :=
  List.findIdx_lt_length_of_exists seen

private theorem firstSeen_append {votes : List (Address × value)} {wanted : value}
    (seen : ∃ vote ∈ votes, (wanted == vote.2) = true) (more : List (Address × value)) :
    firstSeen (votes ++ more) wanted = firstSeen votes wanted := by
  have inside := firstSeen_lt seen
  unfold firstSeen at inside ⊢
  rw [List.findIdx_append, if_pos inside]

/-- The entries of a ballot are the classes of its votes. -/
structure Classified (votes : List (Address × value)) (entries : List (value × List Address)) :
    Prop where
  /-- Every entry is about a value that was given. -/
  given : ∀ present ∈ entries.map Prod.fst, ∃ vote ∈ votes, vote.2 = present
  /-- Every value that was given has an entry. -/
  covered : ∀ vote ∈ votes, ∃ present ∈ entries.map Prod.fst, (present == vote.2) = true
  /-- An entry has the voters of its class. -/
  voters : ∀ entry ∈ entries, entry.2 = supporters votes entry.1
  /-- No class has two entries. -/
  apart : (entries.map Prod.fst).Pairwise fun earlier later => (earlier == later) = false
  /-- Entries are in the order of their first votes. -/
  ordered : (entries.map Prod.fst).Pairwise fun earlier later =>
    firstSeen votes earlier < firstSeen votes later

section Snoc

variable {votes : List (Address × value)} {voter : Address} {vote : value}

private theorem supporters_snoc_of_ne {present : value} (unequal : (present == vote) = false) :
    supporters (votes ++ [(voter, vote)]) present = supporters votes present := by
  simp [supporters, List.filter_append, unequal]

private theorem ordered_snoc (comparable : Comparable (votes ++ [(voter, vote)]))
    {values : List value} (given : ∀ present ∈ values, ∃ vote ∈ votes, vote.2 = present)
    (ordered : values.Pairwise fun earlier later =>
      firstSeen votes earlier < firstSeen votes later) :
    values.Pairwise fun earlier later =>
      firstSeen (votes ++ [(voter, vote)]) earlier <
        firstSeen (votes ++ [(voter, vote)]) later := by
  have stays (present : value) (member : present ∈ values) :
      firstSeen (votes ++ [(voter, vote)]) present = firstSeen votes present := by
    obtain ⟨cast, isVote, rfl⟩ := given present member
    exact firstSeen_append ⟨cast, isVote, comparable.of_append.refl cast isVote⟩ _
  refine ordered.imp_of_mem fun {earlier later} isEarlier isLater below => ?_
  rw [stays earlier isEarlier, stays later isLater]
  exact below

private theorem classified_joined (comparable : Comparable (votes ++ [(voter, vote)]))
    {before after : List (value × List Address)} {present : value} {voters : List Address}
    (classified : Classified votes (before ++ (present, voters) :: after))
    (equal : (present == vote) = true) :
    Classified (votes ++ [(voter, vote)]) (before ++ (present, voters ++ [voter]) :: after) := by
  obtain ⟨given, covered, counted, apart, ordered⟩ := classified
  have values : (before ++ (present, voters ++ [voter]) :: after).map Prod.fst =
      (before ++ (present, voters) :: after).map Prod.fst := by simp
  have isVote (other : value)
      (listed : other ∈ (before ++ (present, voters) :: after).map Prod.fst) :
      ∃ cast ∈ votes ++ [(voter, vote)], cast.2 = other := by
    obtain ⟨cast, member, same⟩ := given other listed
    exact ⟨cast, by simp [member], same⟩
  -- a value of another entry does not equal the vote, as it would then equal the value joined
  have unequal (other : value × List Address) (listed : other ∈ before ++ after) :
      (other.1 == vote) = false := by
    have isOther : other.1 ∈ (before ++ (present, voters) :: after).map Prod.fst := by
      refine List.mem_map_of_mem ?_
      rw [List.mem_append, List.mem_cons]
      rcases List.mem_append.mp listed with early | late
      · exact .inl early
      · exact .inr (.inr late)
    obtain ⟨otherVote, isOther, sameOther⟩ := isVote other.1 isOther
    obtain ⟨presentVote, isPresent, samePresent⟩ := isVote present (by simp)
    have newVote : (voter, vote) ∈ votes ++ [(voter, vote)] := by simp
    cases holds : other.1 == vote with
    | false => rfl
    | true =>
        have back := comparable.symm presentVote isPresent (voter, vote) newVote
          (by rw [samePresent]; exact equal)
        have joined := comparable.trans otherVote isOther (voter, vote) newVote presentVote
          isPresent (by rw [sameOther]; exact holds) back
        have reverse := comparable.symm otherVote isOther presentVote isPresent joined
        rw [sameOther, samePresent] at joined reverse
        rw [List.map_append, List.map_cons] at apart
        obtain ⟨-, late, cross⟩ := List.pairwise_append.mp apart
        rcases List.mem_append.mp listed with early | listed
        · have differs := cross other.1 (List.mem_map_of_mem early) present (by simp)
          simp [differs] at joined
        · have differs := (List.pairwise_cons.mp late).1 other.1 (List.mem_map_of_mem listed)
          simp [differs] at reverse
  refine ⟨?_, ?_, ?_, ?_, ?_⟩
  · rw [values]
    exact isVote
  · rw [values]
    intro cast member
    rcases List.mem_append.mp member with old | new
    · exact covered cast old
    · obtain rfl := List.mem_singleton.mp new
      exact ⟨present, by simp, equal⟩
  · intro entry member
    rcases List.mem_append.mp member with early | late
    · rw [supporters_snoc_of_ne (unequal entry (by simp [early]))]
      exact counted entry (by simp [early])
    · rcases List.mem_cons.mp late with rfl | late
      · have old : voters = supporters votes present := counted (present, voters) (by simp)
        simp [supporters, List.filter_append, equal, old]
      · rw [supporters_snoc_of_ne (unequal entry (by simp [late]))]
        exact counted entry (by simp [late])
  · rw [values]
    exact apart
  · rw [values]
    exact ordered_snoc comparable given ordered

private theorem classified_founded (comparable : Comparable (votes ++ [(voter, vote)]))
    {entries : List (value × List Address)} (classified : Classified votes entries)
    (passed : ∀ entry ∈ entries, (entry.1 == vote) = false) :
    Classified (votes ++ [(voter, vote)]) (entries ++ [(vote, [voter])]) := by
  obtain ⟨given, covered, counted, apart, ordered⟩ := classified
  have newVote : (voter, vote) ∈ votes ++ [(voter, vote)] := by simp
  have passed' : ∀ present ∈ entries.map Prod.fst, (present == vote) = false := by
    simpa using passed
  -- nobody before gave what equals the vote, as there would be an entry that equals both
  have unseen : ∀ cast ∈ votes, (vote == cast.2) = false := by
    intro cast member
    have isCast : cast ∈ votes ++ [(voter, vote)] := by simp [member]
    obtain ⟨present, listed, equal⟩ := covered cast member
    obtain ⟨founder, isFounder, rfl⟩ := given present listed
    cases holds : vote == cast.2 with
    | false => rfl
    | true =>
        have back := comparable.symm (voter, vote) newVote cast isCast holds
        have joined := comparable.trans founder (by simp [isFounder]) cast isCast (voter, vote)
          newVote equal back
        simp [passed' founder.2 listed] at joined
  refine ⟨?_, ?_, ?_, ?_, ?_⟩
  · intro present member
    rw [List.map_append, List.mem_append] at member
    rcases member with old | new
    · obtain ⟨cast, isVote, same⟩ := given present old
      exact ⟨cast, by simp [isVote], same⟩
    · obtain rfl : present = vote := by simpa using new
      exact ⟨(voter, present), newVote, rfl⟩
  · intro cast member
    rcases List.mem_append.mp member with old | new
    · obtain ⟨present, listed, equal⟩ := covered cast old
      exact ⟨present, by simp [List.map_append, listed], equal⟩
    · obtain rfl := List.mem_singleton.mp new
      exact ⟨vote, by simp, comparable.refl _ newVote⟩
  · intro entry member
    rcases List.mem_append.mp member with old | new
    · rw [supporters_snoc_of_ne (passed entry old)]
      exact counted entry old
    · obtain rfl := List.mem_singleton.mp new
      have nobody : (votes.filter fun cast => vote == cast.2) = [] :=
        List.filter_eq_nil_iff.mpr fun cast isCast => by simp [unseen cast isCast]
      have self : (vote == vote) = true := comparable.refl (voter, vote) newVote
      simp [supporters, List.filter_append, nobody, self]
  · rw [List.map_append]
    refine List.pairwise_append.mpr ⟨apart, by simp, fun earlier isEarlier later isLater => ?_⟩
    obtain rfl : later = vote := by simpa using isLater
    exact passed' earlier isEarlier
  · rw [List.map_append]
    refine List.pairwise_append.mpr
      ⟨ordered_snoc comparable given ordered, by simp, fun earlier isEarlier later isLater => ?_⟩
    obtain rfl : later = vote := by simpa using isLater
    obtain ⟨cast, isCast, rfl⟩ := given earlier isEarlier
    have seen : ∃ other ∈ votes, (cast.2 == other.2) = true :=
      ⟨cast, isCast, comparable.of_append.refl cast isCast⟩
    have last : votes.length ≤ firstSeen (votes ++ [(voter, later)]) later := by
      have skipped : votes.findIdx (fun other => later == other.2) = votes.length :=
        List.findIdx_eq_length.mpr unseen
      rw [firstSeen, List.findIdx_append, skipped, if_neg (Nat.lt_irrefl _)]
      exact Nat.le_add_left _ _
    rw [firstSeen_append seen]
    exact Nat.lt_of_lt_of_le (firstSeen_lt seen) last

end Snoc

theorem classified_tally {votes : List (Address × value)} (comparable : Comparable votes) :
    Classified votes (tally votes).entries := by
  induction votes using List.reverseRecOn with
  | nil => exact ⟨by simp, by simp, by simp, by simp, by simp⟩
  | append_singleton votes vote induction =>
      obtain ⟨voter, vote⟩ := vote
      have classified := induction comparable.of_append
      rw [entries_tally_append]
      rcases cast_cases voter vote (tally votes).entries with
        ⟨before, present, voters, after, split, -, equal, result⟩ | ⟨passed, result⟩
      · rw [split] at classified
        rw [result]
        exact classified_joined comparable classified equal
      · rw [result]
        exact classified_founded comparable classified passed

/-- To equal one of two values that equal each other is to equal the other one. -/
private theorem equals_congr {votes : List (Address × value)} (comparable : Comparable votes)
    {left right : value} (isLeft : ∃ vote ∈ votes, vote.2 = left)
    (isRight : ∃ vote ∈ votes, vote.2 = right) (equal : (left == right) = true) :
    ∀ vote ∈ votes, (left == vote.2) = (right == vote.2) := by
  obtain ⟨leftVote, leftMember, rfl⟩ := isLeft
  obtain ⟨rightVote, rightMember, rfl⟩ := isRight
  intro vote member
  refine Bool.eq_iff_iff.mpr ⟨fun holds => ?_, fun holds => ?_⟩
  · exact comparable.trans rightVote rightMember leftVote leftMember vote member
      (comparable.symm leftVote leftMember rightVote rightMember equal) holds
  · exact comparable.trans leftVote leftMember rightVote rightMember vote member equal holds

private theorem supporters_congr {votes : List (Address × value)} {left right : value}
    (alike : ∀ vote ∈ votes, (left == vote.2) = (right == vote.2)) :
    supporters votes left = supporters votes right := by
  rw [supporters, supporters, List.filter_congr alike]

private theorem firstSeen_congr {votes : List (Address × value)} {left right : value}
    (alike : ∀ vote ∈ votes, (left == vote.2) = (right == vote.2)) :
    firstSeen votes left = firstSeen votes right := by
  induction votes with
  | nil => rfl
  | cons head rest induction =>
      have same := induction fun vote member => alike vote (by simp [member])
      simp only [firstSeen] at same ⊢
      rw [List.findIdx_cons, List.findIdx_cons, alike head (by simp), same]

/-- The voters of the winning value are exactly its supporters.  Any other value has fewer, or as
many and was given later. -/
theorem winner_most_frequent {votes : List (Address × value)} (comparable : Comparable votes)
    {winner : value × List Address} (wins : (tally votes).majority? = some winner) :
    winner.2 = supporters votes winner.1 ∧
      ∀ vote ∈ votes, (winner.1 == vote.2) = false →
        (supporters votes vote.2).length < winner.2.length ∨
          (supporters votes vote.2).length = winner.2.length ∧
            firstSeen votes winner.1 < firstSeen votes vote.2 := by
  obtain ⟨given, covered, voters, -, ordered⟩ := classified_tally comparable
  obtain ⟨before, after, split, fewer, noMore, -⟩ := majority?_between wins
  rw [split] at given voters ordered
  have exact : winner.2 = supporters votes winner.1 := voters winner (by simp)
  refine ⟨exact, fun vote member differs => ?_⟩
  obtain ⟨present, listed, equal⟩ := covered vote member
  rw [split] at listed
  have alike := equals_congr comparable (given present listed) ⟨vote, member, rfl⟩ equal
  obtain ⟨entry, isEntry, rfl⟩ := List.mem_map.mp listed
  have counted : entry.2 = supporters votes vote.2 :=
    (voters entry isEntry).trans (supporters_congr alike)
  rw [← counted, ← firstSeen_congr alike]
  rcases List.mem_append.mp isEntry with early | late
  · exact .inl (fewer entry early)
  · rcases List.mem_cons.mp late with rfl | late
    · simp [differs] at equal
    · rw [List.map_append, List.map_cons] at ordered
      have later : firstSeen votes winner.1 < firstSeen votes entry.1 :=
        (List.pairwise_cons.mp (List.pairwise_append.mp ordered).2.1).1 entry.1
          (List.mem_map_of_mem late)
      rcases Nat.lt_or_eq_of_le (noMore entry late) with fewer | same
      · exact .inl fewer
      · exact .inr ⟨same, later⟩

/-- Who did not give what equals the winning value is a dissenter, and nobody else is. -/
theorem mem_dissenters_iff {votes : List (Address × value)} (comparable : Comparable votes)
    (distinct : (votes.map Prod.fst).Nodup) {winner : value × List Address}
    (wins : (tally votes).majority? = some winner) {vote : Address × value}
    (member : vote ∈ votes) :
    vote.1 ∈ (tally votes).dissenters ↔ (winner.1 == vote.2) = false := by
  have voters := (winner_most_frequent comparable wins).1
  have support : vote.1 ∈ winner.2 ↔ (winner.1 == vote.2) = true := by
    rw [voters]
    constructor
    · intro among
      obtain ⟨other, isOther, same⟩ := List.mem_map.mp among
      obtain ⟨isOther, equal⟩ := List.mem_filter.mp isOther
      obtain rfl := List.inj_on_of_nodup_map distinct isOther member same
      exact equal
    · intro equal
      exact List.mem_map_of_mem (List.mem_filter.mpr ⟨member, equal⟩)
  constructor
  · intro dissents
    have absent := not_mem_winner distinct wins dissents
    rw [support] at absent
    simpa using absent
  · intro differs
    rcases mem_winner_or_dissenter wins (List.mem_map_of_mem member) with among | dissents
    · rw [support, differs] at among
      simp at among
    · exact dissents

end AuctionHouse.Ballot
