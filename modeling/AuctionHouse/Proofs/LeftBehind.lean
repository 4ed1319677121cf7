import AuctionHouse.Proofs.Rosters

/-!
# What a process leaves behind

Whoever leaves is out of the multicast group for good, but out of the RPC group only under the last
address that it had been given when it left for the first time.  The view keeps all other addresses
that it was ever given, and their handlers go on being asked.  So leaving is complete just for those
that joined the RPC group once at most, and before they left.
-/

namespace AuctionHouse.Hub

variable {source handler : Type} {hub : Hub source handler} {past : Chronicle source handler}
  {member rpc caller : Address} {answer : handler}

/-- A request is put to all handlers whose addresses are connected with the caller. -/
theorem Run.audience_eq (run : Run past hub) (caller : Address) :
    hub.audience caller =
      if hub.isReachable caller then hub.handlers.filter fun entry => hub.isReachable entry.1
      else [] := by
  have distinct : (hub.handlers.map Prod.fst).Nodup := by
    rw [run.handlers, List.map_map]
    exact (ascending_nodup run.registrations_ascending).sublist (List.filter_sublist.map _)
  rw [audience, run.rpcView]
  split
  · rw [List.filter_map, List.filterMap_map]
    refine (List.filterMap_congr fun entry listed => ?_).trans List.filterMap_some
    exact find?_of_nodup distinct (List.mem_of_mem_filter listed)
  · rfl

/-- A handler is asked under the address that was given for it, unless that has been given up or the
caller or the address is cut off. -/
theorem Run.mem_audience_iff (run : Run past hub)
    (registered : (member, rpc, answer) ∈ registrationsIn past) (caller : Address) :
    (rpc, answer) ∈ hub.audience caller ↔
      hub.isReachable caller = true ∧ hub.isReachable rpc = true ∧
        surrendered? past member ≠ some rpc := by
  have kept : (rpc, answer) ∈ hub.handlers ↔ surrendered? past member ≠ some rpc := by
    rw [run.handlers]
    simp only [List.mem_map, List.mem_filter, decide_eq_true_eq]
    constructor
    · rintro ⟨entry, ⟨listed, kept⟩, same⟩
      obtain rfl := run.eq_of_registered listed registered (congrArg Prod.fst same)
      exact kept
    · intro kept
      exact ⟨_, ⟨registered, kept⟩, rfl⟩
  rw [run.audience_eq]
  by_cases reachable : hub.isReachable caller = true
  · simp [reachable, kept, and_comm]
  · simp [reachable]

theorem Run.rpcAddresses_nodup (run : Run past hub) (member : Address) :
    (rpcAddressesIn past member).Nodup :=
  (ascending_nodup run.registrations_ascending).sublist (List.filter_sublist.map _)

/-- Nothing of a process is left in the RPC group just if it was given no address but the one that
it has given up. -/
theorem Run.gone_iff (run : Run past hub) (member : Address) :
    (∀ rpc ∈ rpcAddressesIn past member, rpc ∉ hub.rpcView.members) ↔
      rpcAddressesIn past member = (surrendered? past member).toList := by
  constructor
  · intro nothing
    have all : ∀ rpc ∈ rpcAddressesIn past member, surrendered? past member = some rpc := by
      intro rpc given
      by_contra kept
      exact nothing rpc given ((run.mem_rpcView_iff given).mpr kept)
    have distinct := run.rpcAddresses_nodup member
    cases given : rpcAddressesIn past member with
    | nil =>
        cases gone : surrendered? past member with
        | none => rfl
        | some rpc => simpa [given] using mem_of_surrendered? gone
    | cons first others =>
        rw [given] at all distinct
        have isFirst := all first List.mem_cons_self
        have alone : others = [] := by
          refine List.eq_nil_iff_forall_not_mem.mpr fun rpc listed => ?_
          have isOther := all rpc (List.mem_cons_of_mem _ listed)
          obtain rfl := Option.some.inj (isFirst.symm.trans isOther)
          exact (List.nodup_cons.mp distinct).1 listed
        rw [alone, isFirst, Option.toList_some]
  · intro only rpc given listed
    have kept := (run.mem_rpcView_iff given).mp listed
    rw [only, Option.mem_toList] at given
    exact kept given

/-- Whoever has left is not in the multicast group, and in the RPC group with exactly those of its
addresses that it has not given up; under those its handlers are still asked.  Nothing of it is left
just if it was given no address but the one that it has given up. -/
theorem Run.left_behind (run : Run past hub) (gone : member ∈ leaversIn past) :
    member ∉ hub.multicastView.members ∧
    (∀ rpc ∈ rpcAddressesIn past member,
      rpc ∈ hub.rpcView.members ↔ surrendered? past member ≠ some rpc) ∧
    (∀ rpc answer, (member, rpc, answer) ∈ registrationsIn past → ∀ caller,
      (rpc, answer) ∈ hub.audience caller ↔
        hub.isReachable caller = true ∧ hub.isReachable rpc = true ∧
          surrendered? past member ≠ some rpc) ∧
    ((∀ rpc ∈ rpcAddressesIn past member, rpc ∉ hub.rpcView.members) ↔
      rpcAddressesIn past member = (surrendered? past member).toList) := by
  refine ⟨fun listed => ?_, fun rpc given => run.mem_rpcView_iff given,
    fun rpc answer registered => run.mem_audience_iff registered, run.gone_iff member⟩
  rw [run.multicastView] at listed
  exact ((run.isSubscriber_iff member).mp (isSubscriber_of_holder listed)).2 gone

/-- A process that joins the RPC group twice and then leaves. -/
theorem exists_run_registered_twice : ∃ (past : Chronicle Unit Bool) (hub : Hub Unit Bool),
    Run past hub ∧ hub.isolated = [] ∧ leaversIn past = [⟨.multicast, 1⟩] ∧
      registrationsIn past =
        [(⟨.multicast, 1⟩, ⟨.rpc, 2⟩, true), (⟨.multicast, 1⟩, ⟨.rpc, 3⟩, false)] ∧
      surrendered? past ⟨.multicast, 1⟩ = some ⟨.rpc, 3⟩ := by
  refine ⟨_, _, Run.begin.next (.join () rfl)
    |>.next (.joinRpc ⟨.multicast, 1⟩ true (by decide) rfl)
    |>.next (.joinRpc ⟨.multicast, 1⟩ false (by decide) rfl)
    |>.next (.leave ⟨.multicast, 1⟩ (by decide)), rfl, rfl, rfl, rfl⟩

/-- Of a process that joined twice the first address stays, and its handler is still asked. -/
theorem Run.left_behind_first : ∃ (past : Chronicle Unit Bool) (hub : Hub Unit Bool),
    Run past hub ∧ ⟨.multicast, 1⟩ ∈ leaversIn past ∧
      ⟨.rpc, 2⟩ ∈ hub.rpcView.members ∧ ⟨.rpc, 3⟩ ∉ hub.rpcView.members ∧
        (⟨.rpc, 2⟩, true) ∈ hub.audience ⟨.multicast, 4⟩ := by
  obtain ⟨past, hub, run, connected, left, registered, gone⟩ := exists_run_registered_twice
  have reachable (address : Address) : hub.isReachable address = true := by
    simp [isReachable, connected]
  have leaves : ⟨.multicast, 1⟩ ∈ leaversIn past := by simp [left]
  have first : (⟨.multicast, 1⟩, ⟨.rpc, 2⟩, true) ∈ registrationsIn past := by simp [registered]
  have second : (⟨.multicast, 1⟩, ⟨.rpc, 3⟩, false) ∈ registrationsIn past := by simp [registered]
  obtain ⟨-, view, audience, -⟩ := run.left_behind leaves
  refine ⟨past, hub, run, leaves, ?_, ?_, ?_⟩
  · exact (view _ (mem_rpcAddressesIn.mpr ⟨true, first⟩)).mpr (by simp [gone])
  · exact fun listed => (view _ (mem_rpcAddressesIn.mpr ⟨false, second⟩)).mp listed gone
  · exact (audience _ _ first _).mpr ⟨reachable _, reachable _, by simp [gone]⟩

/-- Not everybody who has left is gone. -/
theorem Run.not_gone_of_left : ¬ ∀ (past : Chronicle Unit Bool) (hub : Hub Unit Bool)
    (member : Address), Run past hub → member ∈ leaversIn past →
      (∀ rpc ∈ rpcAddressesIn past member, rpc ∉ hub.rpcView.members) ∧
        ∀ rpc answer, (member, rpc, answer) ∈ registrationsIn past →
          ∀ caller, (rpc, answer) ∉ hub.audience caller := by
  intro complete
  obtain ⟨past, hub, run, -, left, registered, gone⟩ := exists_run_registered_twice
  have given : ⟨.rpc, 2⟩ ∈ rpcAddressesIn past ⟨.multicast, 1⟩ :=
    mem_rpcAddressesIn.mpr ⟨true, by simp [registered]⟩
  obtain ⟨nothing, -⟩ := complete past hub ⟨.multicast, 1⟩ run (by simp [left])
  exact nothing _ given ((run.mem_rpcView_iff given).mpr (by simp [gone]))

end AuctionHouse.Hub
