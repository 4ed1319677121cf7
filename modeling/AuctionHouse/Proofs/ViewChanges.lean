import AuctionHouse.Proofs.Commands
import AuctionHouse.Proofs.Rosters

/-!
# How the groups change

Every change of the members of a group makes one view, with the next number, so the number of a view
says how many changes there have been; and nothing but joining and the first leaving of a process
makes one.  The views that a group takes on follow one upon the other without a gap.
-/

namespace AuctionHouse

/-- A deed of a kind that changes no view: nobody joins, and who leaves had left before. -/
def Deed.Idle {source handler : Type} (past : Chronicle source handler) :
    Deed source handler → Prop
  | .joined .. | .joinedRpc .. => False
  | .left member => member ∈ Hub.leaversIn past
  | .attached _ | .isolated _ | .healed _ | .sent .. | .called _ | .read .. => True

namespace Hub

variable {source handler : Type} {hub after : Hub source handler}
  {past : Chronicle source handler} {deed : Deed source handler}

/-! ## The course of a value -/

section Course

variable {value : Type} [DecidableEq value]

/-- The values that something takes on while a hub is used, one for each deed that changes it. -/
def changesOf (what : Hub source handler → value) :
    Chronicle source handler → Hub source handler → List value
  | [], _ => []
  | (before, _) :: rest, last =>
    let next := (rest.head?.map Prod.fst).getD last
    (if what next = what before then [] else [what next]) ++ changesOf what rest last

theorem changesOf_singleton (what : Hub source handler → value) (hub : Hub source handler)
    (deed : Deed source handler) (after : Hub source handler) :
    changesOf what [(hub, deed)] after = if what after = what hub then [] else [what after] :=
  List.append_nil _

theorem changesOf_snoc (what : Hub source handler → value) (past : Chronicle source handler)
    (hub : Hub source handler) (deed : Deed source handler) (after : Hub source handler) :
    changesOf what (past ++ [(hub, deed)]) after =
      changesOf what past hub ++ if what after = what hub then [] else [what after] := by
  induction past with
  | nil => exact changesOf_singleton what hub deed after
  | cons head rest induction =>
      have next : (((rest ++ [(hub, deed)]).head?.map Prod.fst).getD after) =
          (rest.head?.map Prod.fst).getD hub := by
        cases rest with
        | nil => rfl
        | cons => rfl
      rw [List.cons_append, changesOf, changesOf, next, induction, List.append_assoc]

end Course

/-! ## The numbers of the views -/

/-- The number of a view is the number of changes, if each deed changes the view in this way. -/
theorem Run.id_eq (run : Run past hub) {view : Hub source handler → View}
    (begins : (view empty).id = 0)
    (step : ∀ {past hub deed after}, Run past hub → hub.Does deed after →
      (view hub).GivesWay (view after)) :
    (view hub).id = (changesOf (fun hub => (view hub).members) past hub).length := by
  induction run with
  | begin => exact begins
  | next run does induction =>
      rw [changesOf_snoc, List.length_append, ← induction]
      rcases step run does with same | ⟨number, differ⟩
      · simp [same]
      · simp [number, differ]

/-- Who leaves takes an address out of the RPC group only if it is a member. -/
theorem Run.rpcView_givesWay (run : Run past hub) (does : hub.Does deed after) :
    hub.rpcView.GivesWay after.rpcView := by
  cases does.effect with
  | join joined =>
      obtain ⟨-, -, rfl⟩ := join?_eq_some joined
      exact .inl rfl
  | attach attached =>
      obtain ⟨-, -, rfl⟩ := attach?_eq_some attached
      exact .inl rfl
  | joinRpc present joinedRpc => exact rpcView_joinRpc joinedRpc ▸ View.givesWay_joined _ _
  | @leave member receives =>
      rw [rpcView_leave receives]
      cases remembers : hub.rpcAddress? member with
      | none => exact .inl rfl
      | some rpc =>
          have stays := ((run.isSubscriber_iff member).mp receives).2
          have given : rpc ∈ rpcAddressesIn past member := by
            rw [run.rpcAddress? stays] at remembers
            exact List.mem_of_getLast? remembers
          refine View.givesWay_left ((run.mem_rpcView_iff given).mpr ?_)
          rw [surrendered?, if_neg stays]
          exact (Option.some_ne_none rpc).symm
  | none quiet alike => exact .inl alike.rpcView

/-! ## The order of the members -/

theorem Run.multicastView_ascending (run : Run past hub) : hub.multicastView.Ascending := by
  have enrolled : (enrolledIn past).Sublist (givenIn past) := by
    refine filterMap_sublist_filterMap (fun entry member enrols => ?_) past
    cases deed : entry.2 with
    | joined | attached =>
        rw [deed] at enrols
        exact enrols
    | _ => simp [deed, Deed.enrolled?] at enrols
  rw [View.Ascending, run.multicastView]
  refine run.given_ascending.sublist (List.Sublist.trans ?_ enrolled)
  rw [← run.addresses]
  exact List.filter_sublist.map _

theorem Run.rpcView_ascending (run : Run past hub) : hub.rpcView.Ascending := by
  rw [View.Ascending, run.rpcView, run.handlers, List.map_map]
  exact run.registrations_ascending.sublist (List.filter_sublist.map _)

/-! ## What leaves the views as they are -/

theorem Run.views_of_idle (run : Run past hub) (does : hub.Does deed after)
    (idle : deed.Idle past) :
    after.multicastView = hub.multicastView ∧ after.rpcView = hub.rpcView := by
  cases does.effect with
  | join | joinRpc => exact idle.elim
  | attach attached =>
      obtain ⟨-, -, rfl⟩ := attach?_eq_some attached
      exact ⟨rfl, rfl⟩
  | @leave member receives => exact absurd idle ((run.isSubscriber_iff member).mp receives).2
  | none quiet alike => exact ⟨alike.multicastView, alike.rpcView⟩

/-- However a hub has been used: no two addresses have the same number; both views list their
members in the order of their numbers; the multicast group consists of the subscribers with a state
to hand over and the RPC group of the addresses with a handler; the number of each view says how
often its members have changed; and attaching, cutting off and connecting addresses, posting
messages, putting requests, reading and leaving once more change neither view. -/
theorem Run.membership (run : Run past hub) :
    (givenIn past).Pairwise (fun earlier later => earlier.id < later.id) ∧
    hub.multicastView.Ascending ∧ hub.rpcView.Ascending ∧
    hub.multicastView.members = hub.holders ∧
    hub.rpcView.members = hub.handlers.map Prod.fst ∧
    hub.multicastView.id = (changesOf (fun hub => hub.multicastView.members) past hub).length ∧
    hub.rpcView.id = (changesOf (fun hub => hub.rpcView.members) past hub).length ∧
    (∀ deed after, hub.Does deed after → deed.Idle past →
      after.multicastView = hub.multicastView ∧ after.rpcView = hub.rpcView) ∧
    ∀ (cluster : Cluster) (caller : Address) (request : Request),
      (cluster.callAll caller request).2.hub = cluster.hub :=
  ⟨run.given_ascending, run.multicastView_ascending, run.rpcView_ascending, run.multicastView,
    run.rpcView, run.id_eq rfl fun _ does => does.multicastView,
    run.id_eq rfl fun run does => run.rpcView_givesWay does,
    fun _ _ does idle => run.views_of_idle does idle,
    fun cluster caller request => (cluster.callAll_frame caller request).1⟩

/-- A process joins the RPC group twice, leaves and joins it again; leaving once more is idle. -/
theorem Run.membership_returned : ∃ (past : Chronicle Unit Unit) (hub : Hub Unit Unit),
    Run past hub ∧ hub.rpcView.members = [⟨.rpc, 3⟩, ⟨.rpc, 5⟩] ∧
      hub.rpcView.id = 4 ∧
      (changesOf (fun hub => hub.rpcView.members) past hub).length = 4 ∧
      (hub.leave ⟨.multicast, 1⟩).rpcView = hub.rpcView := by
  obtain ⟨past, hub, run, members, number, left, present⟩ :
      ∃ (past : Chronicle Unit Unit) (hub : Hub Unit Unit), Run past hub ∧
        hub.rpcView.members = [⟨.rpc, 3⟩, ⟨.rpc, 5⟩] ∧ hub.rpcView.id = 4 ∧
        ⟨.multicast, 1⟩ ∈ leaversIn past ∧
        ⟨.multicast, 1⟩ ∈ hub.members.map Member.address :=
    ⟨_, _, Run.begin.next (.join () rfl)
      |>.next (.attach rfl)
      |>.next (.joinRpc ⟨.multicast, 1⟩ () (by decide) rfl)
      |>.next (.joinRpc ⟨.multicast, 1⟩ () (by decide) rfl)
      |>.next (.leave ⟨.multicast, 1⟩ (by decide))
      |>.next (.joinRpc ⟨.multicast, 1⟩ () (by decide) rfl),
      rfl, rfl, by decide, by decide⟩
  obtain ⟨-, -, -, -, -, -, counted, idle, -⟩ := run.membership
  exact ⟨past, hub, run, members, number, counted.symm.trans number,
    (idle _ _ (.leave _ present) left).2⟩

end Hub

end AuctionHouse
