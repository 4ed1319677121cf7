import AuctionHouse.Proofs.ProperHub

/-!
# What is done with a hub

A hub can be used by anybody in any order: processes join and attach, join the RPC group as often as
they like and even after they have left, leave once or several times, post messages, put requests to
the RPC group and read their queues, and addresses are cut off and connected again.  A chronicle
keeps what was done, each time with the hub to which it was done.  Who is a member of what can be
told from the chronicle alone.
-/

namespace AuctionHouse

/-- One use of a hub, with the address that it gave. -/
inductive Deed (source handler : Type) where
  /-- A process joins the multicast group with a state to hand over. -/
  | joined (member : Address) (state : source)
  /-- A process attaches as an observer. -/
  | attached (member : Address)
  /-- A process joins the RPC group. -/
  | joinedRpc (member rpc : Address) (answer : handler)
  /-- A process leaves. -/
  | left (member : Address)
  /-- An address is cut off. -/
  | isolated (address : Address)
  /-- An address is connected again. -/
  | healed (address : Address)
  /-- Somebody posts a message, to one member or to all others. -/
  | sent (sender : Address) (addressee : Option Address) (body : Multicast)
  /-- Somebody puts a request to the RPC group. -/
  | called (caller : Address)
  /-- Somebody takes what has arrived. -/
  | read (member : Address) (events : List Event)

/-- What was done with a hub, oldest first, each deed with the hub to which it was done. -/
abbrev Chronicle (source handler : Type) := List (Hub source handler × Deed source handler)

variable {source handler : Type}

namespace Deed

/-- Who becomes a member of the hub. -/
def enrolled? : Deed source handler → Option Address
  | .joined member _ | .attached member => some member
  | _ => none

/-- The address that is given out. -/
def given? : Deed source handler → Option Address
  | .joined member _ | .attached member => some member
  | .joinedRpc _ rpc _ => some rpc
  | _ => none

/-- Who leaves. -/
def left? : Deed source handler → Option Address
  | .left member => some member
  | _ => none

/-- Whether an address is cut off from now on, if that is what the deed is about. -/
def severs? (address : Address) : Deed source handler → Option Bool
  | .isolated other => if other = address then some true else none
  | .healed other => if other = address then some false else none
  | _ => none

/-- Who joins the RPC group, under which address, and how it answers. -/
def registration? : Deed source handler → Option (Address × Address × handler)
  | .joinedRpc member rpc answer => some (member, rpc, answer)
  | _ => none

/-- A deed that concerns neither group: who leaves had left before. -/
def Quiet (hub : Hub source handler) : Deed source handler → Prop
  | .joined .. | .attached _ | .joinedRpc .. => False
  | .left member => member ∈ hub.members.map Member.address ∧ hub.isSubscriber member = false
  | .isolated _ | .healed _ | .sent .. | .called _ | .read .. => True

theorem Quiet.enrolled? {hub : Hub source handler} {deed : Deed source handler}
    (quiet : deed.Quiet hub) : deed.enrolled? = none := by
  cases deed with
  | joined | attached | joinedRpc => exact quiet.elim
  | _ => rfl

theorem Quiet.given? {hub : Hub source handler} {deed : Deed source handler}
    (quiet : deed.Quiet hub) : deed.given? = none := by
  cases deed with
  | joined | attached | joinedRpc => exact quiet.elim
  | _ => rfl

theorem Quiet.registration? {hub : Hub source handler} {deed : Deed source handler}
    (quiet : deed.Quiet hub) : deed.registration? = none := by
  cases deed with
  | joined | attached | joinedRpc => exact quiet.elim
  | _ => rfl

theorem Quiet.left? {hub : Hub source handler} {deed : Deed source handler} {member : Address}
    (quiet : deed.Quiet hub) (left : deed.left? = some member) :
    member ∈ hub.members.map Member.address ∧ hub.isSubscriber member = false := by
  cases deed with
  | left other =>
      obtain rfl := Option.some.inj left
      exact quiet
  | _ => contradiction

end Deed

namespace Hub

/-- Who has become a member of the hub, oldest first. -/
def enrolledIn (past : Chronicle source handler) : List Address :=
  past.filterMap fun entry => entry.2.enrolled?

/-- The addresses that have been given out, in both groups. -/
def givenIn (past : Chronicle source handler) : List Address :=
  past.filterMap fun entry => entry.2.given?

/-- Who has left, once or several times. -/
def leaversIn (past : Chronicle source handler) : List Address :=
  past.filterMap fun entry => entry.2.left?

/-- The hub after somebody has tried to post a message. -/
def posted (hub : Hub source handler) : Except Fault (Hub source handler) → Hub source handler
  | .ok after => after
  | .error _ => hub

/-- What a deed makes of a hub.  Only who has become a member can join the RPC group or leave. -/
inductive Does (hub : Hub source handler) : Deed source handler → Hub source handler → Prop
  | join (state : source) {member : Address} {after : Hub source handler}
      (joined : hub.join? state = some (member, after)) : Does hub (.joined member state) after
  | attach {member : Address} {after : Hub source handler}
      (attached : hub.attach? = some (member, after)) : Does hub (.attached member) after
  | joinRpc (member : Address) (answer : handler) {rpc : Address} {after : Hub source handler}
      (present : member ∈ hub.members.map Member.address)
      (joinedRpc : hub.joinRpc? member answer = some (rpc, after)) :
      Does hub (.joinedRpc member rpc answer) after
  | leave (member : Address) (present : member ∈ hub.members.map Member.address) :
      Does hub (.left member) (hub.leave member)
  | isolate (address : Address) : Does hub (.isolated address) (hub.isolate address)
  | heal (address : Address) : Does hub (.healed address) (hub.heal address)
  | send (sender : Address) (addressee : Option Address) (body : Multicast) :
      Does hub (.sent sender addressee body) (hub.posted (hub.send sender addressee body))
  | sendSync (sender target peer : Address) :
      Does hub (.sent sender (some target) (.command .sync peer))
        (hub.posted (hub.sendSync sender target peer))
  | announce (sender rpc : Address) :
      Does hub (.sent sender none (.announce rpc sender)) (hub.posted (hub.announce sender rpc))
  | call (caller : Address) : Does hub (.called caller) hub
  | read (member : Address) : Does hub (.read member (hub.take member).1) (hub.take member).2

/-- A hub that was empty at first, with everything that has been done with it since. -/
inductive Run : Chronicle source handler → Hub source handler → Prop
  | begin : Run [] empty
  | next {past : Chronicle source handler} {hub after : Hub source handler}
      {deed : Deed source handler} (run : Run past hub) (does : hub.Does deed after) :
      Run (past ++ [(hub, deed)]) after

variable {hub after : Hub source handler} {past later : Chronicle source handler}
  {deed : Deed source handler} {member : Address}

theorem Run.last (run : Run (past ++ [(hub, deed)]) after) :
    Run past hub ∧ hub.Does deed after := by
  generalize whole : past ++ [(hub, deed)] = chronicle at run
  cases run with
  | begin => simp at whole
  | next run does =>
      obtain ⟨rfl, same⟩ := List.append_inj' whole rfl
      obtain ⟨rfl, rfl⟩ := Prod.mk.inj (List.singleton_inj.mp same)
      exact ⟨run, does⟩

/-- What is so after a deed, and stays so with each later one, is so at the end. -/
theorem Run.since {earlier : Chronicle source handler} {before : Hub source handler}
    {motive : Chronicle source handler → Hub source handler → Prop}
    (run : Run (earlier ++ (before, deed) :: later) hub)
    (first : ∀ {after}, Run earlier before → before.Does deed after →
      motive [(before, deed)] after)
    (next : ∀ {between hub last after}, Run (earlier ++ (before, deed) :: between) hub →
      hub.Does last after → motive ((before, deed) :: between) hub →
        motive ((before, deed) :: between ++ [(hub, last)]) after) :
    motive ((before, deed) :: later) hub := by
  -- A run grows at its end, so what was done since is taken apart from there.
  induction later using List.reverseRecOn generalizing hub with
  | nil => exact first run.last.1 run.last.2
  | append_singleton between final induction =>
      rw [← List.cons_append, ← List.append_assoc] at run
      obtain ⟨run, does⟩ := run.last
      exact next run does (induction run)

/-- A run is a run up to each of its deeds. -/
theorem Run.upTo {before : Hub source handler}
    (run : Run (past ++ (before, deed) :: later) hub) :
    Run past before ∧ ∃ after, before.Does deed after :=
  run.since (motive := fun _ _ => _) (fun run does => ⟨run, _, does⟩) fun _ _ same => same

/-! ## What a deed does to the groups -/

/-- The subscribers with a state to hand over, in the order in which they joined. -/
def holders (hub : Hub source handler) : List Address :=
  (hub.members.filter fun member => member.isSubscribed && member.source.isSome).map Member.address

/-- Two hubs with the same groups, whose members all stand where they stood. -/
structure Alike (hub after : Hub source handler) : Prop where
  lastId : after.lastId = hub.lastId
  addresses : after.members.map Member.address = hub.members.map Member.address
  standing : ∀ address, after.standing address = hub.standing address
  holders : after.holders = hub.holders
  multicastView : after.multicastView = hub.multicastView
  rpcView : after.rpcView = hub.rpcView
  handlers : after.handlers = hub.handlers

theorem Alike.refl (hub : Hub source handler) : hub.Alike hub :=
  ⟨rfl, rfl, fun _ => rfl, rfl, rfl, rfl, rfl⟩

@[simp]
theorem holders_withQueues (hub : Hub source handler) (queue : Member source → List Event) :
    (hub.withQueues queue).holders = hub.holders := by
  simp only [holders, withQueues, List.filter_map, List.map_map]
  rfl

theorem alike_withQueues (hub : Hub source handler) (queue : Member source → List Event) :
    hub.Alike (hub.withQueues queue) where
  lastId := rfl
  addresses := hub.addresses_withQueues queue
  standing := hub.standing_withQueues queue
  holders := hub.holders_withQueues queue
  multicastView := rfl
  rpcView := rfl
  handlers := rfl

/-- A message that is posted does nothing but get to those whom it reaches; one that is refused
reaches nobody. -/
theorem posted_send (hub : Hub source handler) (sender : Address) (addressee : Option Address)
    (body : Multicast) :
    hub.posted (hub.send sender addressee body) =
      hub.deliver (.message sender body) (hub.within sender addressee) := by
  rw [send_eq]
  cases refused : addressee.filter fun only => !hub.isSubscriber only with
  | none => rfl
  | some unknown =>
      obtain ⟨rfl, stranger⟩ := Option.filter_eq_some_iff.mp refused
      refine Eq.symm (deliver_eq _ _ _ |>.trans (withQueues_self fun member listed => ?_))
      refine if_neg fun reached => ?_
      simp only [within, Option.all_some, Bool.and_eq_true, decide_eq_true_eq] at reached
      obtain ⟨subscribed, -, rfl⟩ := reached
      have receives : hub.isSubscriber member.address = true :=
        List.any_eq_true.mpr ⟨member, listed, by simp [subscribed]⟩
      simp [receives] at stranger

/-- What a deed that concerns the groups does; any other one leaves them as they are. -/
inductive Effect (hub : Hub source handler) : Deed source handler → Hub source handler → Prop
  | join {member : Address} {state : source} {after : Hub source handler}
      (joined : hub.join? state = some (member, after)) : Effect hub (.joined member state) after
  | attach {member : Address} {after : Hub source handler}
      (attached : hub.attach? = some (member, after)) : Effect hub (.attached member) after
  | joinRpc {member rpc : Address} {answer : handler} {after : Hub source handler}
      (present : member ∈ hub.members.map Member.address)
      (joinedRpc : hub.joinRpc? member answer = some (rpc, after)) :
      Effect hub (.joinedRpc member rpc answer) after
  | leave {member : Address} (receives : hub.isSubscriber member = true) :
      Effect hub (.left member) (hub.leave member)
  | none {deed : Deed source handler} {after : Hub source handler} (quiet : deed.Quiet hub)
      (alike : hub.Alike after) : Effect hub deed after

theorem Does.effect (does : hub.Does deed after) : hub.Effect deed after := by
  cases does with
  | join state joined => exact .join joined
  | attach attached => exact .attach attached
  | joinRpc member answer present joinedRpc => exact .joinRpc present joinedRpc
  | leave member present =>
      by_cases receives : hub.isSubscriber member = true
      · exact .leave receives
      · rw [Hub.leave, if_neg receives]
        exact .none ⟨present, by simpa using receives⟩ (.refl hub)
  | isolate address => exact .none trivial ⟨rfl, rfl, fun _ => rfl, rfl, rfl, rfl, rfl⟩
  | heal address => exact .none trivial ⟨rfl, rfl, fun _ => rfl, rfl, rfl, rfl, rfl⟩
  | send sender addressee body =>
      rw [posted_send, deliver_eq]
      exact .none trivial (hub.alike_withQueues _)
  | sendSync sender target peer =>
      rw [Hub.sendSync, posted_send, deliver_eq]
      exact .none trivial (hub.alike_withQueues _)
  | announce sender rpc =>
      rw [Hub.announce, posted_send, deliver_eq]
      exact .none trivial (hub.alike_withQueues _)
  | call caller => exact .none trivial (.refl hub)
  | read member =>
      rw [take_eq]
      exact .none trivial (hub.alike_withQueues _)

/-! ## Who is a member -/

/-- What a chronicle says about one kind of deed grows with each deed of this kind. -/
theorem filterMap_snoc {entry value : Type} (what : entry → Option value) (past : List entry)
    (last : entry) :
    (past ++ [last]).filterMap what = past.filterMap what ++ (what last).toList := by
  rw [List.filterMap_append]
  cases found : what last <;> simp [found]

@[simp]
theorem enrolledIn_snoc (past : Chronicle source handler) (hub : Hub source handler)
    (deed : Deed source handler) :
    enrolledIn (past ++ [(hub, deed)]) = enrolledIn past ++ deed.enrolled?.toList :=
  filterMap_snoc _ past _

@[simp]
theorem givenIn_snoc (past : Chronicle source handler) (hub : Hub source handler)
    (deed : Deed source handler) :
    givenIn (past ++ [(hub, deed)]) = givenIn past ++ deed.given?.toList :=
  filterMap_snoc _ past _

@[simp]
theorem leaversIn_snoc (past : Chronicle source handler) (hub : Hub source handler)
    (deed : Deed source handler) :
    leaversIn (past ++ [(hub, deed)]) = leaversIn past ++ deed.left?.toList :=
  filterMap_snoc _ past _

theorem Does.addresses (does : hub.Does deed after) :
    after.members.map Member.address =
      hub.members.map Member.address ++ deed.enrolled?.toList := by
  cases does.effect with
  | join joined => exact addresses_of_join joined
  | attach attached => exact addresses_attach attached
  | joinRpc present joinedRpc => simpa [Deed.enrolled?] using addresses_joinRpc joinedRpc
  | leave receives => simpa [Deed.enrolled?] using addresses_leave receives
  | none quiet alike => simpa [quiet.enrolled?] using alike.addresses

/-- The members of a hub are those that have joined or attached. -/
theorem Run.addresses (run : Run past hub) : hub.members.map Member.address = enrolledIn past := by
  induction run with
  | begin => rfl
  | next run does induction => rw [does.addresses, induction, enrolledIn_snoc]

/-- Every process has one membership, under a number given out before. -/
structure Enumerated (hub : Hub source handler) : Prop where
  distinct : (hub.members.map Member.address).Nodup
  numbered : hub.Numbered

theorem Does.enumerated (does : hub.Does deed after) (enumerated : hub.Enumerated) :
    after.Enumerated := by
  obtain ⟨distinct, numbered⟩ := enumerated
  cases does.effect with
  | join joined =>
      refine ⟨?_, numbered.of_join joined⟩
      rw [addresses_of_join joined]
      exact List.nodup_append'.mpr ⟨distinct, List.nodup_singleton _,
        List.disjoint_singleton.mpr (fresh_of_join numbered joined)⟩
  | attach attached =>
      have fresh := fresh_of_attach numbered attached
      obtain ⟨bound, rfl, rfl⟩ := attach?_eq_some attached
      exact ⟨distinct_enrolled distinct fresh, numbered.enrolled bound rfl⟩
  | joinRpc present joinedRpc =>
      exact ⟨addresses_joinRpc joinedRpc ▸ distinct, numbered.of_joinRpc joinedRpc⟩
  | leave receives => exact ⟨addresses_leave receives ▸ distinct, numbered.leave receives⟩
  | none quiet alike =>
      refine ⟨alike.addresses ▸ distinct, numbered.fewer alike.addresses alike.lastId ?_ ?_⟩
      · exact fun rpc listed => alike.rpcView ▸ listed
      · exact fun entry listed => alike.handlers ▸ listed

theorem Run.enumerated (run : Run past hub) : hub.Enumerated := by
  induction run with
  | begin => exact ⟨proper_empty.distinct, proper_empty.numbered⟩
  | next run does induction => exact does.enumerated induction

/-- Whoever becomes a member was nobody before. -/
theorem Does.fresh (does : hub.Does deed after) (numbered : hub.Numbered)
    (enrolled : deed.enrolled? = some member) : member ∉ hub.members.map Member.address := by
  cases does.effect with
  | join joined =>
      obtain rfl := Option.some.inj enrolled
      exact fresh_of_join numbered joined
  | attach attached =>
      obtain rfl := Option.some.inj enrolled
      exact fresh_of_attach numbered attached
  | joinRpc | leave => contradiction
  | none quiet alike => simp [quiet.enrolled?] at enrolled

/-- Only members leave. -/
theorem Does.present (does : hub.Does deed after) (left : deed.left? = some member) :
    member ∈ hub.members.map Member.address := by
  cases does with
  | leave member present =>
      obtain rfl := Option.some.inj left
      exact present
  | _ => contradiction

theorem Run.enrolled_of_left (run : Run past hub) (left : member ∈ leaversIn past) :
    member ∈ enrolledIn past := by
  induction run with
  | begin => contradiction
  | next run does induction =>
      rw [leaversIn_snoc, List.mem_append, Option.mem_toList] at left
      rw [enrolledIn_snoc]
      refine List.mem_append_left _ ?_
      rcases left with before | now
      · exact induction before
      · exact run.addresses ▸ does.present now

/-! ## Who receives events -/

/-- Who receives events after a deed: whoever becomes a member, and whoever did and does not leave
now. -/
theorem Does.isSubscriber_iff (does : hub.Does deed after) (enumerated : hub.Enumerated)
    (address : Address) :
    after.isSubscriber address = true ↔ deed.enrolled? = some address ∨
      hub.isSubscriber address = true ∧ deed.left? ≠ some address := by
  have distinct := (does.enumerated enumerated).distinct
  obtain ⟨distinct', numbered⟩ := enumerated
  rw [Hub.isSubscriber_iff distinct, Hub.isSubscriber_iff distinct']
  cases does.effect with
  | @join member state after joined =>
      rw [Listens, standing_join numbered joined, Listens]
      by_cases same : address = member
      · simp [same, Deed.enrolled?]
      · simp [same, Deed.enrolled?, Deed.left?, Ne.symm same]
  | @attach member after attached =>
      rw [Listens, standing_attach numbered attached, Listens]
      by_cases same : address = member
      · simp [same, Deed.enrolled?]
      · simp [same, Deed.enrolled?, Deed.left?, Ne.symm same]
  | joinRpc present joinedRpc => simp [listens_joinRpc joinedRpc, Deed.enrolled?, Deed.left?]
  | @leave member receives =>
      rw [listens_leave distinct']
      simp [Deed.enrolled?, Deed.left?, and_comm, eq_comm]
  | none quiet alike =>
      rw [Listens, alike.standing, ← Listens, quiet.enrolled?]
      constructor
      · intro listens
        refine .inr ⟨listens, fun left => ?_⟩
        have receives := (Hub.isSubscriber_iff distinct').mpr listens
        rw [(quiet.left? left).2] at receives
        contradiction
      · rintro (enrolled | ⟨listens, -⟩)
        · contradiction
        · exact listens

/-- Whoever has become a member receives events until it leaves. -/
theorem Run.isSubscriber_iff (run : Run past hub) (address : Address) :
    hub.isSubscriber address = true ↔ address ∈ enrolledIn past ∧ address ∉ leaversIn past := by
  induction run with
  | begin => simp [isSubscriber, empty, enrolledIn]
  | @next past hub after deed run does induction =>
      rw [does.isSubscriber_iff run.enumerated, induction, enrolledIn_snoc, leaversIn_snoc]
      simp only [List.mem_append, Option.mem_toList, not_or]
      constructor
      · rintro (enrolled | ⟨⟨enrolled, stays⟩, still⟩)
        · -- Only members leave, and the address is nobody's yet.
          have fresh := does.fresh run.enumerated.numbered enrolled
          rw [run.addresses] at fresh
          refine ⟨.inr enrolled, fun left => fresh (run.enrolled_of_left left), fun left => ?_⟩
          exact fresh (run.addresses ▸ does.present left)
        · exact ⟨.inl enrolled, stays, still⟩
      · rintro ⟨before | now, stays, still⟩
        · exact .inr ⟨⟨before, stays⟩, still⟩
        · exact .inl now

/-! ## Who is cut off -/

theorem Does.isReachable (does : hub.Does deed after) (address : Address) :
    after.isReachable address =
      ((deed.severs? address).map not).getD (hub.isReachable address) := by
  cases does with
  | join state joined =>
      obtain ⟨-, -, rfl⟩ := join?_eq_some joined
      rfl
  | attach attached =>
      obtain ⟨-, -, rfl⟩ := attach?_eq_some attached
      rfl
  | joinRpc member answer present joinedRpc =>
      obtain ⟨-, -, rfl⟩ := joinRpc?_eq_some joinedRpc
      rfl
  | leave member present =>
      by_cases receives : hub.isSubscriber member = true
      · rw [Hub.isReachable, (leave_frame receives).2]
        rfl
      · rw [Hub.leave, if_neg receives]
        rfl
  | isolate other =>
      by_cases same : other = address
      · simp [Deed.severs?, Hub.isReachable, Hub.isolate, same]
      · simp [Deed.severs?, Hub.isReachable, Hub.isolate, same, Ne.symm same]
  | heal other =>
      by_cases same : other = address
      · simp [Deed.severs?, Hub.isReachable, Hub.heal, same]
      · simp [Deed.severs?, Hub.isReachable, Hub.heal, same, Ne.symm same]
  | send sender addressee body => rw [posted_send]; rfl
  | sendSync sender target peer => rw [Hub.sendSync, posted_send]; rfl
  | announce sender rpc => rw [Hub.announce, posted_send]; rfl
  | call => rfl
  | read member => rfl

/-- An address is cut off if the last thing that was done about it was to cut it off. -/
theorem Run.isReachable_iff (run : Run past hub) (address : Address) :
    hub.isReachable address = true ↔
      (past.filterMap fun entry => entry.2.severs? address).getLast? ≠ some true := by
  induction run with
  | begin => simp [Hub.isReachable, empty]
  | next run does induction =>
      rw [does.isReachable, filterMap_snoc]
      cases severs : Deed.severs? address _ with
      | none => simpa using induction
      | some cut => simp

/-! ## Numbers -/

theorem toNat_next {number : UInt64} (bound : number.toNat + 1 < UInt64.size) :
    (number + 1).toNat = number.toNat + 1 := by
  rw [UInt64.toNat_add, UInt64.toNat_one, Nat.mod_eq_of_lt bound]

/-- The address that a deed gives has the next number. -/
theorem Does.numbers (does : hub.Does deed after) :
    (deed.given? = none ∧ after.lastId = hub.lastId) ∨
      ∃ given, deed.given? = some given ∧ given.id.toNat = hub.lastId.toNat + 1 ∧
        after.lastId.toNat = hub.lastId.toNat + 1 := by
  cases does.effect with
  | join joined =>
      obtain ⟨bound, rfl, rfl⟩ := join?_eq_some joined
      exact .inr ⟨_, rfl, toNat_next bound, toNat_next bound⟩
  | attach attached =>
      obtain ⟨bound, rfl, rfl⟩ := attach?_eq_some attached
      exact .inr ⟨_, rfl, toNat_next bound, toNat_next bound⟩
  | joinRpc present joinedRpc =>
      obtain ⟨bound, rfl, rfl⟩ := joinRpc?_eq_some joinedRpc
      exact .inr ⟨_, rfl, toNat_next bound, toNat_next bound⟩
  | leave receives => exact .inl ⟨rfl, (leave_frame receives).1⟩
  | none quiet alike => exact .inl ⟨quiet.given?, alike.lastId⟩

/-- The numbers given out are those from one on, in order. -/
theorem Run.numbers (run : Run past hub) :
    (givenIn past).map (fun address => address.id.toNat) = List.range' 1 hub.lastId.toNat := by
  induction run with
  | begin => rfl
  | next run does induction =>
      rw [givenIn_snoc, List.map_append, induction]
      rcases does.numbers with ⟨none, same⟩ | ⟨given, isGiven, number, last⟩
      · rw [none, same]
        simp
      · rw [isGiven, last, List.range'_1_concat]
        simp [number, Nat.add_comm]

/-- No two addresses share a number, and an address that was given out later has a greater one. -/
theorem Run.given_ascending (run : Run past hub) :
    (givenIn past).Pairwise fun earlier later => earlier.id < later.id := by
  have ascending := List.pairwise_lt_range' (s := 1) (n := hub.lastId.toNat)
  rw [← run.numbers, List.pairwise_map] at ascending
  exact ascending.imp UInt64.lt_iff_toNat_lt.mpr

end Hub

end AuctionHouse
