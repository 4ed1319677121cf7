import Mathlib.Data.List.TakeWhile
import AuctionHouse.Proofs.Chronicle

/-!
# Who is in which group

The multicast group consists of the subscribers that have a state to hand over, and the RPC group of
the addresses that have a handler.  Both views list their members in the order in which the
addresses were given out, and each change of the members makes one new view.

A process may join the RPC group several times, and even after it has left; each time it gets
another address.  It remembers the last one only, and it can give an address up only once, when it
leaves for the first time.
-/

namespace AuctionHouse

variable {source handler : Type}

/-! ## What becomes of a list of members -/

/-- The members of a view stand in the order in which their addresses were given out. -/
def View.Ascending (view : View) : Prop :=
  view.members.Pairwise fun earlier later => earlier.id < later.id

/-- A view gives way to one with the next number if the members have changed, and else to none. -/
def View.GivesWay (view next : View) : Prop :=
  next = view ∨ next.id = view.id + 1 ∧ next.members ≠ view.members

theorem View.givesWay_joined (view : View) (address : Address) :
    view.GivesWay (view.joined address) :=
  .inr ⟨rfl, by simp [joined]⟩

theorem View.givesWay_left {view : View} {address : Address} (listed : address ∈ view.members) :
    view.GivesWay (view.left address) := by
  refine .inr ⟨rfl, fun same => ?_⟩
  have kept := (List.filter_eq_self.mp same) address listed
  simp at kept

namespace Hub

variable {hub after : Hub source handler} {past : Chronicle source handler}
  {deed : Deed source handler} {address member rpc caller : Address} {answer : handler}

/-! ## The multicast group -/

theorem holders_relocate (hub : Hub source handler) (address : Address)
    (receives : Bool → Bool) (rpc : Option Address) :
    (hub.relocate address receives rpc).holders =
      (hub.members.filter fun member =>
        (if member.address = address then receives member.isSubscribed else member.isSubscribed) &&
          member.source.isSome).map Member.address := by
  have kept (member : Member source) :
      Member.address (if member.address = address then
        { member with isSubscribed := receives member.isSubscribed, rpc } else member) =
        member.address := by
    split
    · rfl
    · rfl
  simp only [holders, relocate, modifyMember, List.filter_map, List.map_map, Function.comp_def,
    kept]
  congr 2
  funext member
  split
  · rfl
  · rfl

theorem holders_join {state : source} (join : hub.join? state = some (address, after)) :
    after.holders = hub.holders ++ [address] := by
  obtain ⟨-, -, rfl⟩ := join?_eq_some join
  rw [publish_eq, holders_withQueues]
  simp [holders, newcomer]

theorem holders_attach (attached : hub.attach? = some (address, after)) :
    after.holders = hub.holders := by
  obtain ⟨-, -, rfl⟩ := attach?_eq_some attached
  simp [holders, enrolled, observer]

theorem holders_joinRpc (joinRpc : hub.joinRpc? address answer = some (rpc, after)) :
    after.holders = hub.holders := by
  obtain ⟨-, -, rfl⟩ := joinRpc?_eq_some joinRpc
  refine (holders_relocate _ address (fun receives => receives) (some rpc)).trans ?_
  simp only [ite_self]
  exact (congrArg Hub.holders (publish_eq _ _)).trans (holders_withQueues _ _)

theorem holders_silenced (hub : Hub source handler) (address : Address) :
    (hub.silenced address).holders = hub.holders.filter fun other => other ≠ address := by
  have without : (hub.relocate address (fun _ => false) none).holders =
      hub.holders.filter fun other => other ≠ address := by
    rw [holders_relocate, holders, List.filter_map, List.filter_filter]
    congr 2
    funext member
    by_cases same : member.address = address
    · simp [same]
    · simp [same]
  rw [← without, silenced]
  split
  · exact (congrArg Hub.holders (publish_eq _ _)).trans (holders_withQueues _ _)
  · rfl

theorem holders_leave (receives : hub.isSubscriber address = true) :
    (hub.leave address).holders = hub.holders.filter fun other => other ≠ address := by
  rw [leave_of_subscriber receives, ← holders_silenced]
  cases hub.rpcAddress? address with
  | none => rfl
  | some rpc => exact (congrArg Hub.holders (publish_eq _ _)).trans (holders_withQueues _ _)

theorem multicastView_silenced (hub : Hub source handler) (address : Address) :
    (hub.silenced address).multicastView =
      if address ∈ hub.multicastView.members then hub.multicastView.left address
      else hub.multicastView := by
  rw [silenced]
  by_cases listed : address ∈ hub.multicastView.members
  · have present : hub.multicastView.contains address = true := decide_eq_true listed
    rw [if_pos listed, if_pos (by exact present)]
    rfl
  · have absent : ¬ hub.multicastView.contains address = true := by simpa [View.contains]
    rw [if_neg listed, if_neg (by exact absent)]
    rfl

theorem multicastView_leave (receives : hub.isSubscriber address = true) :
    (hub.leave address).multicastView =
      if address ∈ hub.multicastView.members then hub.multicastView.left address
      else hub.multicastView := by
  rw [leave_of_subscriber receives, ← multicastView_silenced]
  cases hub.rpcAddress? address with
  | none => rfl
  | some rpc => rfl

theorem multicastView_join {state : source} (join : hub.join? state = some (address, after)) :
    after.multicastView = hub.multicastView.joined address := by
  obtain ⟨-, -, rfl⟩ := join?_eq_some join
  rfl

theorem multicastView_attach (attached : hub.attach? = some (address, after)) :
    after.multicastView = hub.multicastView := by
  obtain ⟨-, -, rfl⟩ := attach?_eq_some attached
  rfl

theorem multicastView_joinRpc (joinRpc : hub.joinRpc? address answer = some (rpc, after)) :
    after.multicastView = hub.multicastView := by
  obtain ⟨-, -, rfl⟩ := joinRpc?_eq_some joinRpc
  rfl

theorem isSubscriber_of_holder (holds : member ∈ hub.holders) : hub.isSubscriber member = true := by
  obtain ⟨present, listed, rfl⟩ := List.mem_map.mp holds
  obtain ⟨isMember, gives⟩ := List.mem_filter.mp listed
  rw [Bool.and_eq_true] at gives
  exact List.any_eq_true.mpr ⟨present, isMember, by simp [gives.1]⟩

/-- The members of the multicast group are the subscribers with a state to hand over. -/
theorem Run.multicastView (run : Run past hub) : hub.multicastView.members = hub.holders := by
  induction run with
  | begin => rfl
  | @next past hub after deed run does induction =>
      cases does.effect with
      | join joined =>
          rw [multicastView_join joined, holders_join joined, ← induction]
          rfl
      | attach attached => rw [multicastView_attach attached, holders_attach attached, induction]
      | joinRpc present joinedRpc =>
          rw [multicastView_joinRpc joinedRpc, holders_joinRpc joinedRpc, induction]
      | @leave member receives =>
          rw [multicastView_leave receives, holders_leave receives, ← induction]
          split
          · rfl
          · rename_i absent
            refine (List.filter_eq_self.mpr fun other listed => decide_eq_true ?_).symm
            rintro rfl
            exact absent listed
      | none quiet alike => rw [alike.multicastView, alike.holders, induction]

/-- Whoever is in the multicast group has become a member. -/
theorem Run.enrolled_of_listed (run : Run past hub)
    (listed : member ∈ hub.multicastView.members) : member ∈ enrolledIn past := by
  rw [run.multicastView] at listed
  exact ((run.isSubscriber_iff member).mp (isSubscriber_of_holder listed)).1

theorem Does.multicastView (does : hub.Does deed after) :
    hub.multicastView.GivesWay after.multicastView := by
  cases does.effect with
  | join joined => exact multicastView_join joined ▸ View.givesWay_joined _ _
  | attach attached => exact .inl (multicastView_attach attached)
  | joinRpc present joinedRpc => exact .inl (multicastView_joinRpc joinedRpc)
  | leave receives =>
      rw [multicastView_leave receives]
      split
      · rename_i listed
        exact View.givesWay_left listed
      · exact .inl rfl
  | none quiet alike => exact .inl alike.multicastView

/-! ## The RPC group -/

/-- Who has joined the RPC group, each time with the address and how it answers there. -/
def registrationsIn (past : Chronicle source handler) : List (Address × Address × handler) :=
  past.filterMap fun entry => entry.2.registration?

/-- The RPC addresses that a process has been given, oldest first. -/
def rpcAddressesIn (past : Chronicle source handler) (member : Address) : List Address :=
  ((registrationsIn past).filter fun entry => entry.1 = member).map fun entry => entry.2.1

/-- The RPC address that a process has given up: the last one that it had been given when it left
for the first time. -/
def surrendered? (past : Chronicle source handler) (member : Address) : Option Address :=
  if member ∈ leaversIn past then
    (rpcAddressesIn (past.takeWhile fun entry => entry.2.left? ≠ some member) member).getLast?
  else
    none

@[simp]
theorem registrationsIn_snoc (past : Chronicle source handler) (hub : Hub source handler)
    (deed : Deed source handler) :
    registrationsIn (past ++ [(hub, deed)]) =
      registrationsIn past ++ deed.registration?.toList :=
  filterMap_snoc _ past _

theorem rpcAddressesIn_snoc (past : Chronicle source handler) (hub : Hub source handler)
    (deed : Deed source handler) (member : Address) :
    rpcAddressesIn (past ++ [(hub, deed)]) member =
      rpcAddressesIn past member ++
        (deed.registration?.toList.filter fun entry => entry.1 = member).map
          fun entry => entry.2.1 := by
  rw [rpcAddressesIn, registrationsIn_snoc, List.filter_append, List.map_append, rpcAddressesIn]

theorem mem_rpcAddressesIn :
    rpc ∈ rpcAddressesIn past member ↔
      ∃ answer, (member, rpc, answer) ∈ registrationsIn past := by
  simp only [rpcAddressesIn, List.mem_map, List.mem_filter, decide_eq_true_eq]
  constructor
  · rintro ⟨⟨other, given, answer⟩, ⟨listed, rfl⟩, rfl⟩
    exact ⟨answer, listed⟩
  · rintro ⟨answer, listed⟩
    exact ⟨_, ⟨listed, rfl⟩, rfl⟩

/-- Only the first time that somebody leaves an address is given up. -/
theorem surrendered?_snoc (past : Chronicle source handler) (hub : Hub source handler)
    (deed : Deed source handler) (member : Address) :
    surrendered? (past ++ [(hub, deed)]) member =
      if member ∈ leaversIn past then surrendered? past member
      else if deed.left? = some member then (rpcAddressesIn past member).getLast?
      else none := by
  simp only [surrendered?, leaversIn_snoc, List.mem_append, Option.mem_toList]
  by_cases before : member ∈ leaversIn past
  · obtain ⟨entry, listed, left⟩ := List.mem_filterMap.mp before
    have stops :
        (past.takeWhile fun entry => entry.2.left? ≠ some member).length ≠ past.length := by
      intro whole
      have all := List.takeWhile_eq_self_iff.mp
        ((List.takeWhile_prefix _).eq_of_length whole) entry listed
      simp [left] at all
    rw [if_pos (.inl before), if_pos before, if_pos before, List.takeWhile_append, if_neg stops]
  · have stays : ∀ entry ∈ past, decide (entry.2.left? ≠ some member) = true := by
      intro entry listed
      refine decide_eq_true fun left => before ?_
      exact List.mem_filterMap.mpr ⟨entry, listed, left⟩
    by_cases now : deed.left? = some member
    · have whole : (past ++ [(hub, deed)]).takeWhile (fun entry => entry.2.left? ≠ some member) =
          past := by
        rw [List.takeWhile_append_of_pos stays]
        simp [now]
      rw [if_pos (.inr now), if_neg before, if_pos now, whole]
    · simp [before, now]

/-- Whoever gives an address up had been given it. -/
theorem mem_of_surrendered? (gone : surrendered? past member = some rpc) :
    rpc ∈ rpcAddressesIn past member := by
  rw [surrendered?] at gone
  split at gone
  · obtain ⟨answer, listed⟩ := mem_rpcAddressesIn.mp (List.mem_of_getLast? gone)
    refine mem_rpcAddressesIn.mpr ⟨answer, ?_⟩
    exact ((List.takeWhile_sublist _).filterMap _).mem listed
  · contradiction

/-- What is a part of each deed is a part of the chronicle. -/
theorem filterMap_sublist_filterMap {entry value : Type} {part whole : entry → Option value}
    (le : ∀ one found, part one = some found → whole one = some found) (past : List entry) :
    (past.filterMap part).Sublist (past.filterMap whole) := by
  induction past with
  | nil => exact .slnil
  | cons head rest induction =>
      cases found : part head with
      | none =>
          rw [List.filterMap_cons_none found]
          exact induction.trans ((List.sublist_cons_self head rest).filterMap whole)
      | some value =>
          rw [List.filterMap_cons_some found, List.filterMap_cons_some (le head value found)]
          exact induction.cons_cons value

/-- Nobody is given an RPC address that somebody has been given before. -/
theorem Run.registrations_ascending (run : Run past hub) :
    ((registrationsIn past).map fun entry => entry.2.1).Pairwise
      fun earlier later => earlier.id < later.id := by
  refine run.given_ascending.sublist ?_
  rw [registrationsIn, List.map_filterMap]
  refine filterMap_sublist_filterMap (fun entry found given => ?_) past
  obtain ⟨⟨member, rpc, answer⟩, registered, rfl⟩ := Option.map_eq_some_iff.mp given
  cases deed : entry.2 with
  | joinedRpc =>
      rw [deed] at registered
      obtain ⟨-, rfl, -⟩ := Option.some.inj registered
      rfl
  | _ => simp [deed, Deed.registration?] at registered

theorem ascending_nodup {addresses : List Address}
    (ascending : addresses.Pairwise fun earlier later => earlier.id < later.id) :
    addresses.Nodup := by
  refine List.Pairwise.imp (fun below => ?_) ascending
  rintro rfl
  exact UInt64.lt_irrefl _ below

/-- An RPC address has been given to one process only. -/
theorem Run.eq_of_registered (run : Run past hub) {left right : Address × Address × handler}
    (isLeft : left ∈ registrationsIn past) (isRight : right ∈ registrationsIn past)
    (same : left.2.1 = right.2.1) : left = right :=
  List.inj_on_of_nodup_map (ascending_nodup run.registrations_ascending) isLeft isRight same

theorem rpcAddress?_join {state : source} (numbered : hub.Numbered)
    (join : hub.join? state = some (address, after)) (other : Address) :
    after.rpcAddress? other = hub.rpcAddress? other :=
  rpcAddress?_of_newcomer (fresh_of_join numbered join) (standing_join numbered join) other

theorem rpcAddress?_attach (numbered : hub.Numbered)
    (attached : hub.attach? = some (address, after)) (other : Address) :
    after.rpcAddress? other = hub.rpcAddress? other :=
  rpcAddress?_of_newcomer (fresh_of_attach numbered attached) (standing_attach numbered attached)
    other

/-- A process remembers the last RPC address that it was given. -/
theorem rpcAddress?_joinRpc (present : address ∈ hub.members.map Member.address)
    (joinRpc : hub.joinRpc? address answer = some (rpc, after)) (other : Address) :
    after.rpcAddress? other = if other = address then some rpc else hub.rpcAddress? other := by
  rw [rpcAddress?_eq, standing_joinRpc joinRpc, rpcAddress?_eq]
  split
  · rename_i same
    obtain ⟨stands, standing⟩ :=
      Option.isSome_iff_exists.mp ((hub.standing_isSome other).mpr (same ▸ present))
    rw [standing]
    rfl
  · rfl

/-- As long as a process has not left, it remembers the last RPC address that it was given. -/
theorem Run.rpcAddress? (run : Run past hub) (stays : member ∉ leaversIn past) :
    hub.rpcAddress? member = (rpcAddressesIn past member).getLast? := by
  induction run with
  | begin => rfl
  | @next past hub after deed run does induction =>
      have numbered := run.enumerated.numbered
      rw [leaversIn_snoc, List.mem_append, not_or, Option.mem_toList] at stays
      obtain ⟨before, now⟩ := stays
      rw [rpcAddressesIn_snoc]
      cases does.effect with
      | join joined => simp [rpcAddress?_join numbered joined, induction before, Deed.registration?]
      | attach attached =>
          simp [rpcAddress?_attach numbered attached, induction before, Deed.registration?]
      | @joinRpc other rpc answer after present joinedRpc =>
          rw [rpcAddress?_joinRpc present joinedRpc]
          by_cases same : member = other
          · simp [same, Deed.registration?]
          · simp [same, Ne.symm same, induction before, Deed.registration?]
      | @leave other receives =>
          have differ : member ≠ other := fun same => now (congrArg some same.symm)
          simp [rpcAddress?_leave receives, differ, induction before, Deed.registration?]
      | none quiet alike =>
          simp [rpcAddress?_congr alike.standing, induction before, quiet.registration?]

/-- Who leaves for the first time gives up the RPC address that it remembers. -/
theorem Run.surrendered?_leave (run : Run past hub) (receives : hub.isSubscriber member = true)
    (other : Address) :
    surrendered? (past ++ [(hub, .left member)]) other =
      if other = member then hub.rpcAddress? member else surrendered? past other := by
  have stays := ((run.isSubscriber_iff member).mp receives).2
  rw [surrendered?_snoc]
  by_cases same : other = member
  · simp [same, stays, Deed.left?, run.rpcAddress? stays]
  · have still : other ∉ leaversIn past → surrendered? past other = none := fun stays =>
      if_neg stays
    simp only [same, if_false, Deed.left?, Option.some.injEq, Ne.symm same]
    split
    · rfl
    · rename_i stays'
      exact (still stays').symm

/-- Nothing is given up by a deed by which nobody leaves for the first time. -/
theorem surrendered?_of_stays (stays : ∀ other, deed.left? = some other → other ∈ leaversIn past) :
    surrendered? (past ++ [(hub, deed)]) = surrendered? past := by
  funext other
  rw [surrendered?_snoc]
  by_cases before : other ∈ leaversIn past
  · rw [if_pos before]
  · rw [if_neg before, if_neg fun left => before (stays other left), surrendered?, if_neg before]

/-- The handlers are those of all RPC addresses that have been given out and not given up. -/
theorem Run.handlers (run : Run past hub) :
    hub.handlers =
      ((registrationsIn past).filter fun entry =>
        surrendered? past entry.1 ≠ some entry.2.1).map Prod.snd := by
  induction run with
  | begin => rfl
  | @next past hub after deed run does induction =>
      rw [registrationsIn_snoc]
      cases does.effect with
      | join joined =>
          obtain ⟨-, -, rfl⟩ := join?_eq_some joined
          rw [surrendered?_of_stays (by simp [Deed.left?])]
          exact induction.trans (by simp [Deed.registration?])
      | attach attached =>
          obtain ⟨-, -, rfl⟩ := attach?_eq_some attached
          rw [surrendered?_of_stays (by simp [Deed.left?])]
          exact induction.trans (by simp [Deed.registration?])
      | @joinRpc member rpc answer after present joinedRpc =>
          -- What has been given up had been given before, so it has a smaller number.
          have unused : surrendered? past member ≠ some rpc := by
            intro gone
            obtain ⟨answer', registered⟩ := mem_rpcAddressesIn.mp (mem_of_surrendered? gone)
            have after := run.next (.joinRpc member answer present joinedRpc)
            have ascending := after.registrations_ascending
            rw [registrationsIn_snoc, List.map_append] at ascending
            have below := (List.pairwise_append.mp ascending).2.2 rpc
              (List.mem_map_of_mem registered) rpc (by simp [Deed.registration?])
            exact UInt64.lt_irrefl _ below
          rw [handlers_joinRpc joinedRpc, surrendered?_of_stays (by simp [Deed.left?]),
            List.filter_append, List.map_append, ← induction]
          simp [Deed.registration?, unused]
      | @leave member receives =>
          have given {rpc : Address} (remembers : hub.rpcAddress? member = some rpc) :
              rpc ∈ rpcAddressesIn past member := by
            rw [run.rpcAddress? ((run.isSubscriber_iff member).mp receives).2] at remembers
            exact List.mem_of_getLast? remembers
          -- By this deed the remembered address is given up, whether there is one or not.
          have dropped : (hub.leave member).handlers =
              hub.handlers.filter fun entry => hub.rpcAddress? member ≠ some entry.1 := by
            rw [handlers_leave receives]
            cases hub.rpcAddress? member with
            | none => simp
            | some rpc => simp [eq_comm]
          rw [dropped, induction, List.filter_map, List.filter_filter]
          simp only [Deed.registration?, Option.toList_none, List.append_nil]
          refine congrArg (List.map Prod.snd) (List.filter_congr fun entry listed => ?_)
          obtain ⟨other, rpc, answer⟩ := entry
          simp only [Function.comp_apply, run.surrendered?_leave receives]
          by_cases same : other = member
          · have none : surrendered? past member = none :=
              if_neg ((run.isSubscriber_iff member).mp receives).2
            simp [same, none]
          · have others : hub.rpcAddress? member ≠ some rpc := by
              intro remembers
              obtain ⟨answer', registered⟩ := mem_rpcAddressesIn.mp (given remembers)
              exact same (congrArg Prod.fst (run.eq_of_registered listed registered rfl))
            simp [same, others]
      | none quiet alike =>
          have stays : ∀ other, deed.left? = some other → other ∈ leaversIn past := by
            intro other left
            obtain ⟨present, silent⟩ := quiet.left? left
            by_contra stays
            have receives := (run.isSubscriber_iff other).mpr ⟨run.addresses ▸ present, stays⟩
            rw [silent] at receives
            contradiction
          rw [alike.handlers, surrendered?_of_stays stays, induction]
          simp [quiet.registration?]

/-- The members of the RPC group are the addresses that have a handler. -/
theorem Run.rpcView (run : Run past hub) :
    hub.rpcView.members = hub.handlers.map Prod.fst := by
  induction run with
  | begin => rfl
  | next run does induction =>
      cases does.effect with
      | join joined =>
          obtain ⟨-, -, rfl⟩ := join?_eq_some joined
          exact induction
      | attach attached =>
          obtain ⟨-, -, rfl⟩ := attach?_eq_some attached
          exact induction
      | joinRpc present joinedRpc =>
          rw [rpcView_joinRpc joinedRpc, handlers_joinRpc joinedRpc, List.map_append, ← induction]
          rfl
      | @leave member receives =>
          rw [rpcView_leave receives, handlers_leave receives]
          cases Hub.rpcAddress? _ member with
          | none => exact induction
          | some rpc =>
              simp only [View.left, induction, List.filter_map]
              rfl
      | none quiet alike => rw [alike.rpcView, alike.handlers, induction]

/-- An RPC address is in the view unless it has been given up. -/
theorem Run.mem_rpcView_iff (run : Run past hub) (given : rpc ∈ rpcAddressesIn past member) :
    rpc ∈ hub.rpcView.members ↔ surrendered? past member ≠ some rpc := by
  obtain ⟨answer, registered⟩ := mem_rpcAddressesIn.mp given
  rw [run.rpcView, run.handlers]
  simp only [List.mem_map, List.mem_filter, decide_eq_true_eq]
  constructor
  · rintro ⟨-, ⟨entry, ⟨listed, kept⟩, rfl⟩, rfl⟩
    rwa [run.eq_of_registered listed registered rfl] at kept
  · intro kept
    exact ⟨(rpc, answer), ⟨(member, rpc, answer), ⟨registered, kept⟩, rfl⟩, rfl⟩

end Hub

end AuctionHouse
