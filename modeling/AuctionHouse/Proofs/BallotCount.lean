import Mathlib.Data.List.Flatten
import Mathlib.Data.List.Induction
import Mathlib.Data.List.MinMax
import Mathlib.Data.List.Nodup
import Mathlib.Data.List.Perm.Subperm
import AuctionHouse.Ballot

/-!
# Counting votes

Every vote is in exactly one entry of a ballot, and the first voter of an entry has given exactly
its value.  The winning entry is the first of the largest.  Whoever is told to copy a state voted
for another entry.  A value that more than half of the voters gave wins, whatever the others gave.
-/

namespace AuctionHouse.Ballot

variable {value : Type} [BEq value]

/-! ## Where a vote goes -/

@[simp]
theorem entries_tally_nil : (tally ([] : List (Address × value))).entries = [] := rfl

@[simp]
theorem entries_tally_append (votes : List (Address × value)) (voter : Address) (vote : value) :
    (tally (votes ++ [(voter, vote)])).entries = cast voter vote (tally votes).entries := by
  simp [tally]

/-- A vote either joins the first entry that it equals, or founds the last one. -/
theorem cast_cases (voter : Address) (vote : value) (entries : List (value × List Address)) :
    (∃ before present voters after, entries = before ++ (present, voters) :: after ∧
        (∀ entry ∈ before, (entry.1 == vote) = false) ∧ (present == vote) = true ∧
        cast voter vote entries = before ++ (present, voters ++ [voter]) :: after) ∨
      ((∀ entry ∈ entries, (entry.1 == vote) = false) ∧
        cast voter vote entries = entries ++ [(vote, [voter])]) := by
  induction entries with
  | nil => exact .inr ⟨by simp, rfl⟩
  | cons head rest induction =>
      obtain ⟨present, voters⟩ := head
      by_cases equal : (present == vote) = true
      · exact .inl ⟨[], present, voters, rest, rfl, by simp, equal, by rw [cast, if_pos equal]; rfl⟩
      · rw [cast, if_neg equal]
        have unequal : (present == vote) = false := by simpa using equal
        rcases induction with ⟨before, joined, among, after, rfl, passed, found, result⟩ |
          ⟨passed, result⟩
        · refine .inl ⟨(present, voters) :: before, joined, among, after, rfl, ?_, found, ?_⟩
          · simpa [unequal] using passed
          · rw [result]
            rfl
        · refine .inr ⟨by simpa [unequal] using passed, ?_⟩
          rw [result]
          rfl

/-- No vote is lost and none is counted twice. -/
theorem voters_tally_perm (votes : List (Address × value)) :
    ((tally votes).entries.flatMap Prod.snd).Perm (votes.map Prod.fst) := by
  induction votes using List.reverseRecOn with
  | nil => exact .refl _
  | append_singleton votes vote induction =>
      obtain ⟨voter, vote⟩ := vote
      rw [entries_tally_append, List.map_append]
      have counted : ((cast voter vote (tally votes).entries).flatMap Prod.snd).Perm
          ((tally votes).entries.flatMap Prod.snd ++ [voter]) := by
        rcases cast_cases voter vote (tally votes).entries with
          ⟨before, present, voters, after, split, -, -, result⟩ | ⟨-, result⟩
        · rw [result, split]
          simp only [List.flatMap_append, List.flatMap_cons, List.append_assoc]
          exact .append_left _ (.append_left _ List.perm_append_comm)
        · rw [result]
          simp
      exact counted.trans (induction.append_right [voter])

theorem respondents_tally (votes : List (Address × value)) :
    (tally votes).respondents = votes.length := by
  have counted := (voters_tally_perm votes).length_eq
  simpa [respondents] using counted

/-- An entry is founded by a voter who gave exactly its value; the others gave what equals it. -/
def Founded (votes : List (Address × value)) (entry : value × List Address) : Prop :=
  ∃ first rest, entry.2 = first :: rest ∧ (first, entry.1) ∈ votes ∧
    ∀ voter ∈ rest, ∃ vote, (voter, vote) ∈ votes ∧ (entry.1 == vote) = true

theorem founded_tally (votes : List (Address × value)) :
    ∀ entry ∈ (tally votes).entries, Founded votes entry := by
  induction votes using List.reverseRecOn with
  | nil => simp
  | append_singleton votes vote induction =>
      obtain ⟨voter, vote⟩ := vote
      have grown : ∀ entry, Founded votes entry → Founded (votes ++ [(voter, vote)]) entry := by
        rintro entry ⟨first, rest, voters, founder, others⟩
        refine ⟨first, rest, voters, by simp [founder], fun other member => ?_⟩
        obtain ⟨given, present, equal⟩ := others other member
        exact ⟨given, by simp [present], equal⟩
      intro entry member
      rw [entries_tally_append] at member
      rcases cast_cases voter vote (tally votes).entries with
        ⟨before, present, voters, after, split, -, equal, result⟩ | ⟨-, result⟩
      · rw [result] at member
        rw [split] at induction
        rcases List.mem_append.mp member with old | new
        · exact grown entry (induction entry (by simp [old]))
        · rcases List.mem_cons.mp new with rfl | old
          · obtain ⟨first, rest, among, founder, others⟩ :=
              grown _ (induction (present, voters) (by simp))
            simp only at among founder others
            refine ⟨first, rest ++ [voter], by simp [among], founder, fun other listed => ?_⟩
            rcases List.mem_append.mp listed with earlier | last
            · exact others other earlier
            · obtain rfl := List.mem_singleton.mp last
              exact ⟨vote, by simp, equal⟩
          · exact grown entry (induction entry (by simp [old]))
      · rw [result] at member
        rcases List.mem_append.mp member with old | new
        · exact grown entry (induction entry old)
        · obtain rfl := List.mem_singleton.mp new
          exact ⟨voter, [], rfl, by simp, by simp⟩

/-- A value that equals itself has one entry at most if all have given it. -/
theorem tally_of_equal {votes : List (Address × value)} {given : value}
    (agree : ∀ vote ∈ votes, vote.2 = given) (self : (given == given) = true) :
    (tally votes).entries = [] ∨ ∃ voters, (tally votes).entries = [(given, voters)] := by
  induction votes using List.reverseRecOn with
  | nil => exact .inl rfl
  | append_singleton votes vote induction =>
      obtain ⟨voter, vote⟩ := vote
      obtain rfl : vote = given := agree (voter, vote) (by simp)
      rw [entries_tally_append]
      rcases induction fun earlier member => agree earlier (by simp [member]) with
        none | ⟨voters, one⟩
      · rw [none]
        exact .inr ⟨[voter], rfl⟩
      · rw [one, cast, if_pos self]
        exact .inr ⟨voters ++ [voter], rfl⟩

/-! ## The winning entry -/

/-- The first of the greatest elements stands behind smaller ones and before no greater one. -/
theorem argmax_split {element : Type} {size : element → Nat} {elements : List element}
    {greatest : element} (found : elements.argmax size = some greatest) :
    ∃ before after, elements = before ++ greatest :: after ∧
      (∀ other ∈ before, size other < size greatest) ∧
        ∀ other ∈ after, size other ≤ size greatest := by
  induction elements using List.reverseRecOn generalizing greatest with
  | nil => simp at found
  | append_singleton elements last induction =>
      rw [List.argmax_concat] at found
      cases earlier : elements.argmax size with
      | none =>
          rw [earlier] at found
          obtain rfl : last = greatest := Option.some.inj found
          obtain rfl := List.argmax_eq_none.mp earlier
          exact ⟨[], [], rfl, by simp, by simp⟩
      | some held =>
          rw [earlier] at found
          simp only at found
          by_cases greater : size held < size last
          · rw [if_pos greater] at found
            obtain rfl : last = greatest := Option.some.inj found
            refine ⟨elements, [], rfl, fun other member => ?_, by simp⟩
            exact Nat.lt_of_le_of_lt (List.le_of_mem_argmax member earlier) greater
          · rw [if_neg greater] at found
            obtain rfl : held = greatest := Option.some.inj found
            obtain ⟨before, after, rfl, fewer, noMore⟩ := induction earlier
            refine ⟨before, after ++ [last], by simp, fewer, fun other member => ?_⟩
            rcases List.mem_append.mp member with inside | isLast
            · exact noMore other inside
            · obtain rfl := List.mem_singleton.mp isLast
              exact Nat.le_of_not_lt greater

omit [BEq value] in
/-- The winning entry is found in one pass, by holding on to an entry until one with more voters
comes. -/
theorem majority?_eq_argmax (ballot : Ballot value) :
    ballot.majority? = ballot.entries.argmax fun entry => entry.2.length := by
  cases found : ballot.entries.argmax fun entry => entry.2.length with
  | none =>
      rw [majority?, List.argmax_eq_none.mp found]
      rfl
  | some winner =>
      obtain ⟨before, after, split, fewer, noMore⟩ := argmax_split found
      refine List.find?_eq_some_iff_append.mpr ⟨?_, before, after, split, fun entry member => ?_⟩
      · rw [leads, List.all_eq_true]
        intro other listed
        exact decide_eq_true (List.le_of_mem_argmax (f := fun entry => entry.2.length) listed found)
      · rw [Bool.not_eq_true', leads, List.all_eq_false]
        refine ⟨winner, by simp [split], ?_⟩
        simpa using fewer entry member

omit [BEq value] in
/-- The winning entry is the first that leads; the voters of all others are the dissenters. -/
theorem majority?_split {ballot : Ballot value} {winner : value × List Address}
    (wins : ballot.majority? = some winner) :
    ∃ before after, ballot.entries = before ++ winner :: after ∧
      (∀ entry ∈ before, ballot.leads entry = false) ∧ ballot.leads winner = true ∧
      ballot.dissenters = (before ++ after).flatMap Prod.snd := by
  obtain ⟨leads, before, after, split, behind⟩ := List.find?_eq_some_iff_append.mp wins
  have behind' : ∀ entry ∈ before, ballot.leads entry = false := by simpa using behind
  refine ⟨before, after, split, behind', leads, ?_⟩
  rw [dissenters, split, List.eraseP_append_right _ (by simpa using behind'),
    List.eraseP_cons_of_pos leads]

omit [BEq value] in
/-- The entries before the winning one have fewer voters, those after it no more, and they are the
entries of the dissenters. -/
theorem majority?_between {ballot : Ballot value} {winner : value × List Address}
    (wins : ballot.majority? = some winner) :
    ∃ before after, ballot.entries = before ++ winner :: after ∧
      (∀ entry ∈ before, entry.2.length < winner.2.length) ∧
        (∀ entry ∈ after, entry.2.length ≤ winner.2.length) ∧
          ballot.dissenters = (before ++ after).flatMap Prod.snd := by
  obtain ⟨before, after, split, behind, leading, others⟩ := majority?_split wins
  have above : ∀ entry ∈ ballot.entries, entry.2.length ≤ winner.2.length := by
    simpa [leads] using leading
  refine ⟨before, after, split, fun entry member => ?_, fun entry member => ?_, others⟩
  · have trails := behind entry member
    rw [leads, List.all_eq_false] at trails
    obtain ⟨other, listed, larger⟩ := trails
    have bound := above other listed
    simp only [decide_eq_true_eq] at larger
    omega
  · exact above entry (by simp [split, member])

/-- As soon as anybody votes there is a winner. -/
theorem exists_majority? {votes : List (Address × value)} (nonempty : votes ≠ []) :
    ∃ winner, (tally votes).majority? = some winner := by
  have voted : (tally votes).entries ≠ [] := by
    intro empty
    have counted := (voters_tally_perm votes).length_eq
    rw [empty] at counted
    exact nonempty (List.length_eq_zero_iff.mp (by simpa using counted.symm))
  refine Option.ne_none_iff_exists'.mp ?_
  rw [majority?_eq_argmax]
  exact mt List.argmax_eq_none.mp voted

/-- The winning value was given by the first voter of its entry. -/
theorem winner_founded {votes : List (Address × value)} {winner : value × List Address}
    (wins : (tally votes).majority? = some winner) : Founded votes winner :=
  founded_tally votes winner (List.mem_of_find?_eq_some wins)

/-- Dissenters have voted. -/
theorem dissenters_voted {votes : List (Address × value)} {dissenter : Address}
    (member : dissenter ∈ (tally votes).dissenters) : dissenter ∈ votes.map Prod.fst := by
  refine (voters_tally_perm votes).mem_iff.mp ?_
  obtain ⟨entry, listed, among⟩ := List.mem_flatMap.mp member
  exact List.mem_flatMap.mpr ⟨entry, List.mem_of_mem_eraseP listed, among⟩

/-- Those who agree with the majority and those who do not are all who voted. -/
theorem winner_append_dissenters_perm {votes : List (Address × value)}
    {winner : value × List Address}
    (wins : (tally votes).majority? = some winner) :
    (winner.2 ++ (tally votes).dissenters).Perm (votes.map Prod.fst) := by
  obtain ⟨before, after, split, -, -, others⟩ := majority?_split wins
  have counted := voters_tally_perm votes
  rw [split, List.flatMap_append, List.flatMap_cons] at counted
  rw [others, List.flatMap_append]
  refine List.Perm.trans ?_ counted
  rw [← List.append_assoc, ← List.append_assoc]
  exact List.perm_append_comm.append_right _

/-- Dissenters voted for another entry than the winning one. -/
theorem not_mem_winner {votes : List (Address × value)}
    (distinct : (votes.map Prod.fst).Nodup) {winner : value × List Address}
    (wins : (tally votes).majority? = some winner) {dissenter : Address}
    (member : dissenter ∈ (tally votes).dissenters) : dissenter ∉ winner.2 := by
  have voters := (winner_append_dissenters_perm wins).nodup_iff.mpr distinct
  exact fun among => (List.nodup_append'.mp voters).2.2 among member

/-- Whoever voted and is no dissenter is in the winning entry. -/
theorem mem_winner_or_dissenter {votes : List (Address × value)} {winner : value × List Address}
    (wins : (tally votes).majority? = some winner) {voter : Address}
    (voted : voter ∈ votes.map Prod.fst) :
    voter ∈ winner.2 ∨ voter ∈ (tally votes).dissenters :=
  List.mem_append.mp ((winner_append_dissenters_perm wins).mem_iff.mpr voted)

theorem dissenters_nodup {votes : List (Address × value)}
    (distinct : (votes.map Prod.fst).Nodup) : (tally votes).dissenters.Nodup := by
  have voters := (voters_tally_perm votes).nodup_iff.mpr distinct
  exact voters.sublist (List.eraseP_sublist.flatMap Prod.snd)

/-! ## More than half -/

/-- A vote for a value that equals itself is in the first entry that equals the value. -/
theorem gathered {votes : List (Address × value)} {favoured : value}
    (self : (favoured == favoured) = true) {voter : Address} (given : (voter, favoured) ∈ votes) :
    ∃ entry, (tally votes).entries.find? (fun entry => entry.1 == favoured) = some entry ∧
      voter ∈ entry.2 := by
  induction votes using List.reverseRecOn with
  | nil => simp at given
  | append_singleton votes vote induction =>
      obtain ⟨newcomer, vote⟩ := vote
      rw [entries_tally_append]
      rcases cast_cases newcomer vote (tally votes).entries with
        ⟨before, present, voters, after, split, passed, equal, result⟩ | ⟨passed, result⟩
      · rw [result]
        rcases List.mem_append.mp given with old | new
        · obtain ⟨entry, found, member⟩ := induction old
          rw [split, List.find?_append] at found
          rw [List.find?_append]
          cases early : before.find? (fun entry => entry.1 == favoured) with
          | some first =>
              rw [early] at found
              exact ⟨entry, by simpa using found, member⟩
          | none =>
              rw [early, Option.none_or] at found
              rw [Option.none_or]
              cases joined : present == favoured with
              | true =>
                  simp only [List.find?_cons, joined] at found ⊢
                  obtain rfl := Option.some.inj found
                  exact ⟨_, rfl, List.mem_append_left _ member⟩
              | false =>
                  simp only [List.find?_cons, joined] at found ⊢
                  exact ⟨entry, found, member⟩
        · obtain ⟨rfl, rfl⟩ := Prod.mk.inj (List.mem_singleton.mp new)
          have early : before.find? (fun entry => entry.1 == favoured) = none :=
            List.find?_eq_none.mpr fun entry listed => by simp [passed entry listed]
          simp only [List.find?_append, early, Option.none_or, List.find?_cons, equal]
          exact ⟨_, rfl, by simp⟩
      · rw [result, List.find?_append]
        rcases List.mem_append.mp given with old | new
        · obtain ⟨entry, found, member⟩ := induction old
          exact ⟨entry, by rw [found]; rfl, member⟩
        · obtain ⟨rfl, rfl⟩ := Prod.mk.inj (List.mem_singleton.mp new)
          have absent : (tally votes).entries.find? (fun entry => entry.1 == favoured) = none :=
            List.find?_eq_none.mpr fun entry listed => by simp [passed entry listed]
          simp only [absent, Option.none_or, List.find?_cons, self]
          exact ⟨_, rfl, by simp⟩

end AuctionHouse.Ballot
