import Mathlib.Data.List.Nodup
import AuctionHouse.Proofs.Exchanges

/-!
# The numbers that auctions get

A replica looks for a free number from where the last search ended.  So the position of the search
never moves back, and nothing new is ever live but at the position or by seeding.  A number that was
given out is live until the owner takes the auction out.  Hence numbers are given out in ascending
order, and the only number that can be given out again is the one given out last.
-/

namespace AuctionHouse

/-! ## Which numbers are live -/

namespace Catalogue

variable {value : Type} {catalogue : Catalogue value} {id other : AuctionId}

theorem contains_insert {entry : value} :
    (catalogue.insert id entry).contains other = true ↔
      other = id ∨ catalogue.contains other = true := by
  rw [contains, find?_insert]
  by_cases same : other = id
  · simp [same]
  · simp [same, contains]

theorem contains_of_erase (held : (catalogue.erase id).contains other = true) :
    catalogue.contains other = true := by
  rw [contains, find?_erase] at held
  split at held
  · simp at held
  · exact held

theorem contains_of_find? {entry : value} (found : catalogue.find? id = some entry) :
    catalogue.contains id = true := by
  rw [contains, found, Option.isSome_some]

/-- To file something else under a number that is live makes no other one live. -/
theorem contains_of_insert {entry filed : value} (found : catalogue.find? id = some entry)
    (held : (catalogue.insert id filed).contains other = true) :
    catalogue.contains other = true := by
  rcases contains_insert.mp held with rfl | held
  · exact contains_of_find? found
  · exact held

theorem nodup_rows (catalogue : Catalogue value) : (catalogue.rows.map Prod.fst).Nodup := by
  refine List.pairwise_map.mpr (catalogue.ascending.imp fun below same => ?_)
  rw [same] at below
  exact UInt32.lt_irrefl _ below

end Catalogue

namespace Replica

variable {replica : Replica}

/-- How a replica gets on with its numbers: the position of the search does not move back, and
nothing new is live but perhaps there. -/
structure Advances (replica after : Replica) : Prop where
  position : replica.nextId ≤ after.nextId
  live {id : AuctionId} (held : after.auctions.contains id = true) :
    replica.auctions.contains id = true ∨ id = after.nextId

theorem Advances.refl (replica : Replica) : replica.Advances replica :=
  ⟨UInt32.le_refl _, fun held => .inl held⟩

theorem toNat_nextId_searched (replica : Replica) :
    replica.searched.nextId.toNat =
      min (replica.nextId.toNat + replica.probeLimit.toNat) (UInt32.size - 1) := by
  have size : 0 < UInt32.size := by decide
  exact UInt32.toNat_ofNat_of_lt (by omega)

theorem advances_searched (replica : Replica) : replica.Advances replica.searched where
  position := by
    have bound : replica.nextId.toNat < UInt32.size := replica.nextId.toNat_lt_size
    rw [UInt32.le_iff_toNat_le, toNat_nextId_searched]
    omega
  live held := .inl held

theorem CarriesOut.advances {request : Request} {reply : Reply} {change : Change}
    {after : Replica} (carried : replica.CarriesOut request reply change after) :
    replica.Advances after := by
  cases carried with
  | addition above =>
      exact ⟨above, fun held => (Catalogue.contains_insert.mp held).symm⟩
  | removal => exact ⟨UInt32.le_refl _, fun held => .inl (Catalogue.contains_of_erase held)⟩
  | bid listed =>
      exact ⟨UInt32.le_refl _, fun held => .inl (Catalogue.contains_of_insert listed held)⟩

theorem Interrupted.advances {request : Request} {after : Replica}
    (interrupted : replica.Interrupted request after) : replica.Advances after := by
  cases interrupted with
  | addition above => exact ⟨above, fun held => .inl held⟩
  | removal => exact .refl replica
  | bid listed =>
      exact ⟨UInt32.le_refl _, fun held => .inl (Catalogue.contains_of_insert listed held)⟩

theorem advances_serve (replica : Replica) (request : Request) :
    replica.Advances (replica.serve request).2 := by
  rcases replica.serve_cases request with
    ⟨reply, change, -, -, carried⟩ | ⟨reply, -, -, left⟩ | ⟨-, cut⟩
  · exact carried.advances
  · rw [left]
    split
    · exact replica.advances_searched
    · exact .refl replica
  · exact cut.advances

/-! ## Seeding -/

theorem nextId_enter (replica : Replica) (id : AuctionId) (auctions : List Auction) :
    (replica.enter id auctions).2.nextId = replica.nextId := by
  fun_induction enter replica id auctions with
  | case1 => rfl
  | case2 _ _ _ _ _ _ _ induction => exact induction
  | case3 => rfl
  | case4 => rfl

theorem contains_enter {id other : AuctionId} (auctions : List Auction)
    (held : replica.auctions.contains other = true) :
    (replica.enter id auctions).2.auctions.contains other = true := by
  fun_induction enter replica id auctions with
  | case1 => exact held
  | case2 _ _ _ _ _ _ _ induction => exact induction (Catalogue.contains_insert.mpr (.inr held))
  | case3 => exact held
  | case4 => exact held

/-- What is live after entering rows was live before, or it is a row in its place. -/
theorem contains_of_enter {id other : AuctionId} {auctions : List Auction}
    (held : (replica.enter id auctions).2.auctions.contains other = true) :
    replica.auctions.contains other = true ∨
      ∃ place < auctions.length, other = id + .ofNat place := by
  fun_induction enter replica id auctions with
  | case1 => exact .inl held
  | case2 _ _ _ _ _ _ _ induction =>
      rcases induction held with before | ⟨place, inside, rfl⟩
      · rcases Catalogue.contains_insert.mp before with rfl | old
        · exact .inr ⟨0, by simp, by simp⟩
        · exact .inl old
      · refine .inr ⟨place + 1, by simpa using inside, ?_⟩
        rw [UInt32.ofNat_add, UInt32.add_comm (.ofNat place), ← UInt32.add_assoc]
        rfl
  | case3 => exact .inl held
  | case4 => exact .inl held

theorem nextId_seed (replica : Replica) (bytes : List UInt8) :
    (replica.seed bytes).2.nextId = replica.nextId := by
  cases read : Seed.read bytes with
  | error fault => rw [seed_of_error read]
  | ok auctions => rw [seed_of_read read, nextId_enter]

theorem contains_seed {id : AuctionId} (bytes : List UInt8)
    (held : replica.auctions.contains id = true) :
    (replica.seed bytes).2.auctions.contains id = true := by
  cases read : Seed.read bytes with
  | error fault =>
      rw [seed_of_error read]
      exact held
  | ok auctions =>
      rw [seed_of_read read]
      exact contains_enter auctions held

end Replica

/-! ## A whole run -/

/-- What a replica can be given to do. -/
inductive Task where
  /-- A request to serve. -/
  | serve (request : Request)
  /-- A file to seed it from. -/
  | seed (bytes : List UInt8)
deriving DecidableEq

/-- The replica after a task, whether or not there was an answer. -/
def Replica.afterTask (replica : Replica) : Task → Replica
  | .serve request => (replica.serve request).2
  | .seed bytes => (replica.seed bytes).2

/-- The replica after some tasks. -/
def Replica.afterTasks (replica : Replica) (tasks : List Task) : Replica :=
  tasks.foldl afterTask replica

/-- A task, with the replica to which it was given. -/
abbrev Turn := Replica × Task

/-- The number that an auction gets in a turn. -/
def Turn.issued? : Turn → Option AuctionId
  | (replica, .serve (.addAuction auction)) =>
    match (replica.add auction).1 with
    | .ok given => given
    | .error _ => none
  | _ => none

/-- The numbers that auctions get in some turns. -/
def Turn.issued (turns : List Turn) : List AuctionId := turns.filterMap issued?

/-- In a turn the owner of the auction under a number takes it out. -/
def Turn.Releases (turn : Turn) (id : AuctionId) : Prop :=
  ∃ auction, turn.1.auctions.find? id = some auction ∧
    turn.2 = .serve (.removeAuction auction.owner id) ∧
    (turn.1.serve (.removeAuction auction.owner id)).1 = .ok (.removed (some auction))

theorem Turn.not_releases_of_issued {turn : Turn} {id : AuctionId}
    (issued : turn.issued? = some id) (other : AuctionId) : ¬turn.Releases other := by
  rintro ⟨auction, -, removal, -⟩
  obtain ⟨replica, task⟩ := turn
  obtain rfl : task = _ := removal
  simp [issued?] at issued

namespace Replica

variable {replica : Replica}

/-- The turns that some tasks make. -/
def turns (replica : Replica) : List Task → List Turn
  | [] => []
  | task :: later => (replica, task) :: (replica.afterTask task).turns later

/-! ### One turn -/

theorem nextId_le_afterTask (replica : Replica) (task : Task) :
    replica.nextId ≤ (replica.afterTask task).nextId := by
  cases task with
  | serve request => exact (replica.advances_serve request).position
  | seed bytes => exact UInt32.le_of_eq (replica.nextId_seed bytes).symm

/-- The number that an auction gets was free, and from then on it is live and the search begins
there. -/
theorem of_issued {task : Task} {id : AuctionId}
    (issued : Turn.issued? (replica, task) = some id) :
    replica.auctions.contains id = false ∧ (replica.afterTask task).nextId = id ∧
      (replica.afterTask task).auctions.contains id = true := by
  match task with
  | .serve (.addAuction auction) =>
      have answered : (replica.add auction).1 = .ok (some id) := by
        simp only [Turn.issued?] at issued
        split at issued
        · rename_i given found
          rw [found, issued]
        · simp at issued
      have carried := carriesOut_add answered
      change _ ∧ (replica.add auction).2.nextId = id ∧
        (replica.add auction).2.auctions.contains id = true
      generalize (replica.add auction).2 = after at carried
      cases carried with
      | addition above near passed free =>
          exact ⟨free, rfl, Catalogue.contains_insert.mpr (.inl rfl)⟩

/-- What is live stays so until its owner takes it out. -/
theorem contains_afterTask {task : Task} {id : AuctionId}
    (held : replica.auctions.contains id = true) (kept : ¬Turn.Releases (replica, task) id) :
    (replica.afterTask task).auctions.contains id = true := by
  obtain ⟨auction, live⟩ := Option.isSome_iff_exists.mp held
  cases task with
  | seed bytes => exact contains_seed bytes held
  | serve request =>
      by_cases owners : request = .removeAuction auction.owner id
      · subst owners
        have removal := serve_removal live
        split at removal
        · exact absurd ⟨auction, live, rfl, congrArg Prod.fst removal⟩ kept
        · change (replica.serve _).2.auctions.contains id = true
          rw [removal]
          exact held
      · exact Catalogue.contains_of_find? (find?_serve_of_live live owners)

/-! ### All turns -/

theorem turns_append (replica : Replica) (tasks others : List Task) :
    replica.turns (tasks ++ others) =
      replica.turns tasks ++ (replica.afterTasks tasks).turns others := by
  induction tasks generalizing replica with
  | nil => rfl
  | cons task later induction =>
      rw [List.cons_append, turns, turns, List.cons_append, induction]
      rfl

theorem map_turns (replica : Replica) (tasks : List Task) :
    (replica.turns tasks).map Prod.snd = tasks := by
  induction tasks generalizing replica with
  | nil => rfl
  | cons task later induction => rw [turns, List.map_cons, induction]

/-- A part of a history is the history of a part. -/
theorem turns_eq_append {tasks : List Task} {former latter : List Turn}
    (split : replica.turns tasks = former ++ latter) :
    former = replica.turns (former.map Prod.snd) ∧
      latter = (replica.afterTasks (former.map Prod.snd)).turns (latter.map Prod.snd) := by
  have parts : tasks = former.map Prod.snd ++ latter.map Prod.snd := by
    rw [← map_turns replica tasks, split, List.map_append]
  rw [parts, turns_append] at split
  have lengths : (replica.turns (former.map Prod.snd)).length = former.length := by
    rw [← List.length_map Prod.snd, map_turns, List.length_map]
  obtain ⟨first, second⟩ := List.append_inj split lengths
  exact ⟨first.symm, second.symm⟩

theorem nextId_le_of_issued {tasks : List Task} {id : AuctionId}
    (issued : id ∈ Turn.issued (replica.turns tasks)) : replica.nextId ≤ id := by
  induction tasks generalizing replica with
  | nil => simp [turns, Turn.issued] at issued
  | cons task later induction =>
      have onward := replica.nextId_le_afterTask task
      rw [turns, Turn.issued, List.filterMap_cons] at issued
      split at issued
      · exact UInt32.le_trans onward (induction issued)
      · rename_i first given
        rcases List.mem_cons.mp issued with rfl | further
        · rw [(of_issued given).2.1] at onward
          exact onward
        · exact UInt32.le_trans onward (induction further)

/-- Numbers are given out in ascending order. -/
theorem issued_ascending (replica : Replica) (tasks : List Task) :
    (Turn.issued (replica.turns tasks)).Pairwise (· ≤ ·) := by
  induction tasks generalizing replica with
  | nil => exact .nil
  | cons task later induction =>
      rw [turns, Turn.issued, List.filterMap_cons]
      split
      · exact induction (replica.afterTask task)
      · rename_i first given
        refine List.pairwise_cons.mpr ⟨fun id further => ?_, induction (replica.afterTask task)⟩
        rw [← (of_issued given).2.1]
        exact nextId_le_of_issued further

/-- What is live is not given out as long as its owner does not take it out. -/
theorem not_issued_of_live {tasks : List Task} {id : AuctionId}
    (held : replica.auctions.contains id = true)
    (kept : ∀ turn ∈ replica.turns tasks, ¬turn.Releases id) :
    id ∉ Turn.issued (replica.turns tasks) := by
  induction tasks generalizing replica with
  | nil => simp [turns, Turn.issued]
  | cons task later induction =>
      obtain ⟨first, others⟩ := List.forall_mem_cons.mp kept
      have further := induction (contains_afterTask held first) others
      rw [turns, Turn.issued, List.filterMap_cons]
      split
      · exact further
      · rename_i given issued
        rw [List.mem_cons]
        rintro (rfl | again)
        · rw [(of_issued issued).1] at held
          contradiction
        · exact further again

/-- While nothing is taken out no number is given out twice. -/
theorem nodup_issued {tasks : List Task}
    (kept : ∀ turn ∈ replica.turns tasks, ∀ id, ¬turn.Releases id) :
    (Turn.issued (replica.turns tasks)).Nodup := by
  induction tasks generalizing replica with
  | nil => exact .nil
  | cons task later induction =>
      obtain ⟨-, others⟩ := List.forall_mem_cons.mp kept
      rw [turns, Turn.issued, List.filterMap_cons]
      split
      · exact induction others
      · rename_i id issued
        refine List.nodup_cons.mpr ⟨?_, induction others⟩
        exact not_issued_of_live (of_issued issued).2.2 fun turn member => others turn member id

/-- Between two turns in which a number is given out its owner takes the auction out. -/
theorem exists_release {tasks : List Task} {before between after : List Turn} {former latter : Turn}
    {id : AuctionId} (split : replica.turns tasks = before ++ former :: (between ++ latter :: after))
    (first : former.issued? = some id) (again : latter.issued? = some id) :
    ∃ turn ∈ between, turn.Releases id := by
  obtain ⟨giver, isGiver⟩ : ∃ giver, giver = replica.afterTasks (before.map Prod.snd) := ⟨_, rfl⟩
  have onward := (turns_eq_append split).2
  rw [← isGiver, List.map_cons, turns] at onward
  obtain ⟨begins, further⟩ := List.cons.inj onward
  rw [begins] at first
  -- the part up to the second of the two turns, in which the number is live to begin with
  have upTo : (giver.afterTask former.2).turns ((between ++ latter :: after).map Prod.snd) =
      (between ++ [latter]) ++ after := by
    rw [← further, List.append_assoc, List.singleton_append]
  have stretch := (turns_eq_append upTo).1
  by_contra never
  have kept : ∀ turn ∈ between ++ [latter], ¬turn.Releases id := by
    intro turn member releases
    rcases List.mem_append.mp member with inside | isLatter
    · exact never ⟨turn, inside, releases⟩
    · obtain rfl := List.mem_singleton.mp isLatter
      exact Turn.not_releases_of_issued again id releases
  rw [stretch] at kept
  have absent := not_issued_of_live (of_issued first).2.2 kept
  rw [← stretch] at absent
  exact absent (List.mem_filterMap.mpr ⟨latter, by simp, again⟩)

/-- The numbers of a whole run.  A number that is given out is not live at that moment; numbers are
given out in ascending order; and if a number is given out twice, then nothing else is given out in
between, but the owner of the auction takes it out.  So as long as nothing is taken out no number is
given out twice, and no two auctions are ever live under the same number. -/
theorem numbers_given_out (replica : Replica) (tasks : List Task) :
    (∀ turn ∈ replica.turns tasks, ∀ id, turn.issued? = some id →
        turn.1.auctions.contains id = false) ∧
      (Turn.issued (replica.turns tasks)).Pairwise (· ≤ ·) ∧
      (∀ before former between latter after id,
        replica.turns tasks = before ++ former :: (between ++ latter :: after) →
          former.issued? = some id → latter.issued? = some id →
            (∀ other ∈ Turn.issued between, other = id) ∧ ∃ turn ∈ between, turn.Releases id) ∧
      (∀ before stretch after, replica.turns tasks = before ++ stretch ++ after →
        (∀ turn ∈ stretch, ∀ id, ¬turn.Releases id) → (Turn.issued stretch).Nodup) ∧
      ((replica.afterTasks tasks).auctions.rows.map Prod.fst).Nodup := by
  have ascending := replica.issued_ascending tasks
  refine ⟨?_, ascending, ?_, ?_, Catalogue.nodup_rows _⟩
  · intro turn member id issued
    exact (of_issued issued).1
  · intro before former between latter after id split first again
    refine ⟨fun other member => ?_, exists_release split first again⟩
    rw [split, Turn.issued, List.filterMap_append, List.filterMap_cons_some first,
      List.filterMap_append, List.filterMap_cons_some again] at ascending
    obtain ⟨above, rest⟩ := List.pairwise_cons.mp (List.pairwise_append.mp ascending).2.1
    have below := (List.pairwise_append.mp rest).2.2 other member id List.mem_cons_self
    exact UInt32.le_antisymm below (above other (List.mem_append_left _ member))
  · intro before stretch after split kept
    have part := (turns_eq_append (turns_eq_append split).1.symm).2
    rw [part] at kept ⊢
    exact nodup_issued kept

/-- Two additions, the second of which is taken out again; a seed row; and one addition more. -/
def reissue : List Task :=
  [.serve (.addAuction (.unbid "Ann" ⟨0⟩ "Lamp" ⟨0⟩)),
    .serve (.addAuction (.unbid "Eve" ⟨0⟩ "Rug" ⟨0⟩)),
    .serve (.removeAuction "Eve" 1001),
    .seed [49, 44, 120, 44, 50],
    .serve (.addAuction (.unbid "Bob" ⟨0⟩ "Desk" ⟨0⟩))]

/-- The last number is given out a second time after the auction under it was taken out. -/
theorem numbers_given_out_reissue :
    let turns := (fresh 1000 5000).turns reissue
    Turn.issued turns = [1000, 1001, 1001] ∧
      (∀ turn ∈ turns, turn.issued? = some 1001 → turn.1.auctions.contains 1001 = false) ∧
      (Turn.issued (turns.take 2)).Nodup ∧
      ∃ turn ∈ (turns.drop 2).take 2, turn.Releases 1001 := by
  intro turns
  obtain ⟨free, -, again, apart, -⟩ := (fresh 1000 5000).numbers_given_out reissue
  have second : Turn.issued? ((fresh 1000 5000).turns reissue)[1] = some 1001 := by decide +kernel
  have last : Turn.issued? ((fresh 1000 5000).turns reissue)[4] = some 1001 := by decide +kernel
  refine ⟨by decide +kernel, fun turn member => free turn member 1001, ?_, ?_⟩
  · refine apart [] (turns.take 2) (turns.drop 2) rfl fun turn member id => ?_
    have additions : ∀ turn ∈ turns.take 2, (Turn.issued? turn).isSome = true := by decide +kernel
    obtain ⟨number, issued⟩ := Option.isSome_iff_exists.mp (additions turn member)
    exact Turn.not_releases_of_issued issued id
  · exact (again (turns.take 1) _ _ _ [] 1001 rfl second last).2

end Replica
end AuctionHouse
