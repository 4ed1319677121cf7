import AuctionHouse.Proofs.Membership

/-!
# Who stands where in a hub

Where a process stands is whether it receives events and under which RPC address it answers.  Each
operation of the hub changes where at most one process stands, and appends at most one event of each
kind to the queues of those that receive events.  What they make of it, if they keep an address
book, is again one lemma for each operation.
-/

namespace AuctionHouse.Hub

variable {source handler : Type}

/-- Whether a process receives events, and its RPC address. -/
def standing (hub : Hub source handler) (address : Address) : Option (Bool × Option Address) :=
  (hub.member? address).map fun member => (member.isSubscribed, member.rpc)

/-- A process receives events. -/
def Listens (hub : Hub source handler) (address : Address) : Prop :=
  ∃ rpc, hub.standing address = some (true, rpc)

/-- The address book of a process when it has read what is in its queue. -/
def noted (hub : Hub source handler) (address : Address) (book : AddressBook) : AddressBook :=
  (hub.queueOf address).foldl Cluster.bookAfter book

variable {hub after : Hub source handler} {address other rpc : Address} {book : AddressBook}

theorem rpcAddress?_eq (hub : Hub source handler) (address : Address) :
    hub.rpcAddress? address = (hub.standing address).bind Prod.snd := by
  rw [rpcAddress?, standing, Option.bind_map]
  rfl

theorem rpcAddress?_congr (standing : ∀ address, after.standing address = hub.standing address)
    (address : Address) : after.rpcAddress? address = hub.rpcAddress? address := by
  rw [rpcAddress?_eq, rpcAddress?_eq, standing]

theorem standing_isSome (hub : Hub source handler) (address : Address) :
    (hub.standing address).isSome = true ↔ address ∈ hub.members.map Member.address := by
  rw [standing, Option.isSome_map, member?, List.find?_isSome, List.mem_map]
  simp only [decide_eq_true_eq]

/-- Where every process has one membership, those that receive events are the subscribers. -/
theorem isSubscriber_iff (distinct : (hub.members.map Member.address).Nodup) :
    hub.isSubscriber address = true ↔ hub.Listens address := by
  rw [isSubscriber, List.any_eq_true]
  constructor
  · rintro ⟨member, listed, receives⟩
    simp only [Bool.and_eq_true, decide_eq_true_eq] at receives
    obtain ⟨subscribed, rfl⟩ := receives
    exact ⟨member.rpc, by rw [standing, member?_eq_some distinct listed, Option.map_some,
      subscribed]⟩
  · rintro ⟨rpc, stands⟩
    obtain ⟨member, found, facts⟩ := Option.map_eq_some_iff.mp stands
    obtain ⟨listed, named⟩ := mem_of_member? found
    refine ⟨member, listed, ?_⟩
    rw [(Prod.mk.inj facts).1, named]
    simp

/-! ## Queues -/

@[simp]
theorem standing_withQueues (hub : Hub source handler) (queue : Member source → List Event)
    (address : Address) : (hub.withQueues queue).standing address = hub.standing address := by
  rw [standing, member?_withQueues, Option.map_map]
  rfl

@[simp]
theorem standing_deliver (hub : Hub source handler) (event : Event) (chosen : Address → Bool)
    (address : Address) :
    (hub.deliver event chosen).standing address = hub.standing address := by
  rw [deliver_eq, standing_withQueues]

/-- Where every process has one membership, a subscriber is found to receive events. -/
theorem isSubscriber_eq (distinct : (hub.members.map Member.address).Nodup) (address : Address) :
    hub.isSubscriber address = (hub.standing address).any Prod.fst := by
  rw [Bool.eq_iff_iff, isSubscriber_iff distinct, Listens]
  cases hub.standing address with
  | none => simp
  | some stands =>
      obtain ⟨receives, own⟩ := stands
      simp

/-- An event gets behind what waits already, if the process receives events and it is for it. -/
theorem queueOf_deliver (hub : Hub source handler) (event : Event) (chosen : Address → Bool)
    (address : Address) :
    (hub.deliver event chosen).queueOf address =
      if (hub.standing address).any Prod.fst && chosen address then hub.queueOf address ++ [event]
      else hub.queueOf address := by
  rw [deliver_eq, queueOf_withQueues, queueOf, standing]
  cases found : hub.member? address with
  | none => simp
  | some member =>
      obtain ⟨-, rfl⟩ := mem_of_member? found
      simp

/-- An event gets into the queue of a process that receives events if it is for it. -/
theorem noted_deliver (listens : hub.Listens address) (event : Event) (chosen : Address → Bool)
    (book : AddressBook) :
    (hub.deliver event chosen).noted address book =
      if chosen address then Cluster.bookAfter (hub.noted address book) event
      else hub.noted address book := by
  obtain ⟨rpc, stands⟩ := listens
  rw [noted, queueOf_deliver, stands]
  simp only [Option.any_some, Bool.true_and]
  split
  · rw [List.foldl_append]
    rfl
  · rfl

/-- An address book does not depend on what an address book does not hold. -/
theorem noted_withQueues {queue : Member source → List Event}
    (same : ∀ member ∈ hub.members, member.address = address → ∀ book,
      (queue member).foldl Cluster.bookAfter book = member.queue.foldl Cluster.bookAfter book)
    (book : AddressBook) : (hub.withQueues queue).noted address book = hub.noted address book := by
  rw [noted, noted, queueOf_withQueues, queueOf]
  cases found : hub.member? address with
  | none => rfl
  | some member =>
      obtain ⟨listed, named⟩ := mem_of_member? found
      exact same member listed named book

/-- A published event reaches everybody who receives events. -/
theorem noted_publish (listens : hub.Listens address) (event : Event) (book : AddressBook) :
    (hub.publish event).noted address book =
      Cluster.bookAfter (hub.noted address book) event :=
  noted_deliver listens event (fun _ => true) book

/-! ## A process more -/

/-- A new number is nobody's yet. -/
theorem Numbered.fresh (numbered : hub.Numbered) (bound : hub.lastId.toNat + 1 < UInt64.size)
    (channel : Channel) : ⟨channel, hub.lastId + 1⟩ ∉ hub.members.map Member.address := by
  intro used
  obtain ⟨member, listed, named⟩ := List.mem_map.mp used
  have below := UInt64.lt_of_le_of_lt (numbered.members member listed) (lt_next bound)
  rw [named] at below
  exact UInt64.lt_irrefl _ below

/-- The hub with one process more, under the next number. -/
def enrolled (hub : Hub source handler) (member : Member source) : Hub source handler :=
  { hub with lastId := hub.lastId + 1, members := hub.members ++ [member] }

/-- The membership of a process that observes the groups from now on. -/
def observer (hub : Hub source handler) (address : Address) : Member source :=
  { address, isSubscribed := true, source := none, rpc := none
    queue := [.multicastView hub.multicastView, .rpcView hub.rpcView] }

theorem attach?_eq_some (attached : hub.attach? = some (address, after)) :
    hub.lastId.toNat + 1 < UInt64.size ∧ address = ⟨.multicast, hub.lastId + 1⟩ ∧
      after = hub.enrolled (hub.observer address) := by
  obtain ⟨⟨given, numbered⟩, allocated, result⟩ := Option.map_eq_some_iff.mp attached
  obtain ⟨bound, rfl, rfl⟩ := allocate?_eq_some allocated
  obtain ⟨rfl, rfl⟩ := Prod.mk.inj result
  exact ⟨bound, rfl, rfl⟩

theorem member?_enrolled (fresh : address ∉ hub.members.map Member.address)
    {member : Member source} (named : member.address = address) (other : Address) :
    (hub.enrolled member).member? other =
      if other = address then some member else hub.member? other := by
  subst named
  exact find?_append_of_fresh member fresh other

theorem standing_enrolled (fresh : address ∉ hub.members.map Member.address)
    {member : Member source} (named : member.address = address) (other : Address) :
    (hub.enrolled member).standing other =
      if other = address then some (member.isSubscribed, member.rpc) else hub.standing other := by
  rw [standing, member?_enrolled fresh named]
  split
  · rfl
  · rfl

theorem queueOf_enrolled (fresh : address ∉ hub.members.map Member.address)
    {member : Member source} (named : member.address = address) (other : Address) :
    (hub.enrolled member).queueOf other =
      if other = address then member.queue else hub.queueOf other := by
  rw [queueOf, member?_enrolled fresh named]
  split
  · rfl
  · rfl

theorem noted_enrolled (fresh : address ∉ hub.members.map Member.address)
    {member : Member source} (named : member.address = address) (other : Address)
    (book : AddressBook) :
    (hub.enrolled member).noted other book =
      if other = address then member.queue.foldl Cluster.bookAfter book
      else hub.noted other book := by
  rw [noted, queueOf_enrolled fresh named]
  split
  · rfl
  · rfl

/-! ## Joining and leaving -/

/-- A process is put into another place; its queue stays. -/
def relocate (hub : Hub source handler) (address : Address) (receives : Bool → Bool)
    (rpc : Option Address) : Hub source handler :=
  hub.modifyMember address fun member =>
    { member with isSubscribed := receives member.isSubscribed, rpc }

theorem member?_relocate (hub : Hub source handler) (address : Address) (receives : Bool → Bool)
    (rpc : Option Address) (other : Address) :
    (hub.relocate address receives rpc).member? other =
      if other = address then
        (hub.member? other).map fun member =>
          { member with isSubscribed := receives member.isSubscribed, rpc }
      else hub.member? other := by
  have kept (member : Member source) :
      Member.address (if member.address = address then
        { member with isSubscribed := receives member.isSubscribed, rpc } else member) =
        member.address := by
    split
    · rfl
    · rfl
  refine (find?_map_of_named kept hub.members other).trans ?_
  rw [show hub.members.find? (fun member => decide (member.address = other)) =
    hub.member? other from rfl]
  cases found : hub.member? other with
  | none => simp
  | some member =>
      obtain ⟨-, named⟩ := mem_of_member? found
      rw [Option.map_some, Option.map_some, named]
      split
      · rfl
      · rfl

theorem standing_relocate (hub : Hub source handler) (address : Address)
    (receives : Bool → Bool) (rpc : Option Address) (other : Address) :
    (hub.relocate address receives rpc).standing other =
      if other = address then (hub.standing other).map fun stands => (receives stands.1, rpc)
      else hub.standing other := by
  rw [standing, member?_relocate, standing]
  split
  · rw [Option.map_map, Option.map_map]
    rfl
  · rfl

theorem queueOf_relocate (hub : Hub source handler) (address : Address) (receives : Bool → Bool)
    (rpc : Option Address) (other : Address) :
    (hub.relocate address receives rpc).queueOf other = hub.queueOf other := by
  rw [queueOf, member?_relocate, queueOf]
  split
  · rw [Option.map_map]
    rfl
  · rfl

theorem noted_relocate (hub : Hub source handler) (address : Address) (receives : Bool → Bool)
    (rpc : Option Address) (other : Address) (book : AddressBook) :
    (hub.relocate address receives rpc).noted other book = hub.noted other book := by
  rw [noted, queueOf_relocate, noted]

/-- Who does not answer requests yet leaves the RPC addresses in use as they are. -/
theorem rpcAddress?_of_newcomer (fresh : address ∉ hub.members.map Member.address)
    (standing : ∀ other,
      after.standing other = if other = address then some (true, none) else hub.standing other)
    (other : Address) : after.rpcAddress? other = hub.rpcAddress? other := by
  rw [rpcAddress?_eq, standing, rpcAddress?_eq]
  split
  · rename_i same
    have absent : hub.standing other = none := by
      rw [← Option.not_isSome_iff_eq_none, standing_isSome, same]
      exact fresh
    rw [absent]
    rfl
  · rfl

theorem listens_of_newcomer
    (standing : ∀ other,
      after.standing other = if other = address then some (true, none) else hub.standing other)
    (differ : other ≠ address) : after.Listens other ↔ hub.Listens other := by
  rw [Listens, standing, if_neg differ, Listens]

theorem fresh_of_attach (numbered : hub.Numbered)
    (attached : hub.attach? = some (address, after)) :
    address ∉ hub.members.map Member.address := by
  obtain ⟨bound, rfl, -⟩ := attach?_eq_some attached
  exact numbered.fresh bound .multicast

theorem standing_attach (numbered : hub.Numbered)
    (attached : hub.attach? = some (address, after)) (other : Address) :
    after.standing other = if other = address then some (true, none) else hub.standing other := by
  have fresh := fresh_of_attach numbered attached
  obtain ⟨-, -, rfl⟩ := attach?_eq_some attached
  exact standing_enrolled fresh rfl other

/-- Who attaches finds the two views in its queue. -/
theorem noted_attach (numbered : hub.Numbered)
    (attached : hub.attach? = some (address, after)) (other : Address) (book : AddressBook) :
    after.noted other book =
      if other = address then book.restrict hub.rpcView else hub.noted other book := by
  have fresh := fresh_of_attach numbered attached
  obtain ⟨-, -, rfl⟩ := attach?_eq_some attached
  exact noted_enrolled fresh rfl other book

theorem addresses_attach (attached : hub.attach? = some (address, after)) :
    after.members.map Member.address = hub.members.map Member.address ++ [address] := by
  obtain ⟨-, -, rfl⟩ := attach?_eq_some attached
  exact List.map_append

theorem fresh_of_join (numbered : hub.Numbered) {state : source}
    (join : hub.join? state = some (address, after)) :
    address ∉ hub.members.map Member.address :=
  fun used => numbered.ne_of_join join used rfl

theorem standing_join (numbered : hub.Numbered) {state : source}
    (join : hub.join? state = some (address, after)) (other : Address) :
    after.standing other = if other = address then some (true, none) else hub.standing other := by
  have fresh := fresh_of_join numbered join
  obtain ⟨-, -, rfl⟩ := join?_eq_some join
  exact (standing_deliver _ _ _ other).trans (standing_enrolled fresh rfl other)

/-- Who joins the multicast group changes nobody's address book. -/
theorem noted_join (numbered : hub.Numbered) {state : source}
    (join : hub.join? state = some (address, after)) (listens : hub.Listens other)
    (book : AddressBook) : after.noted other book = hub.noted other book := by
  have fresh := fresh_of_join numbered join
  obtain ⟨rpc, stands⟩ := listens
  have differ : other ≠ address := by
    rintro rfl
    exact fresh ((hub.standing_isSome other).mp (by rw [stands]; rfl))
  obtain ⟨-, -, rfl⟩ := join?_eq_some join
  have still : (hub.enrolled (newcomer state address none)).Listens other :=
    ⟨rpc, by rw [standing_enrolled fresh rfl, if_neg differ, stands]⟩
  refine (noted_publish still _ book).trans ?_
  exact (noted_enrolled fresh rfl other book).trans (if_neg differ)

theorem standing_joinRpc {answer : handler}
    (joinRpc : hub.joinRpc? address answer = some (rpc, after)) (other : Address) :
    after.standing other =
      if other = address then (hub.standing other).map fun stands => (stands.1, some rpc)
      else hub.standing other := by
  obtain ⟨-, -, rfl⟩ := joinRpc?_eq_some joinRpc
  refine (standing_relocate _ address (fun receives => receives) (some rpc) other).trans ?_
  rw [publish, standing_deliver]
  rfl

theorem listens_joinRpc {answer : handler}
    (joinRpc : hub.joinRpc? address answer = some (rpc, after)) (other : Address) :
    after.Listens other ↔ hub.Listens other := by
  rw [Listens, standing_joinRpc joinRpc, Listens]
  split
  · constructor
    · rintro ⟨own, stands⟩
      obtain ⟨⟨receives, before⟩, standing, same⟩ := Option.map_eq_some_iff.mp stands
      obtain ⟨rfl, -⟩ := Prod.mk.inj same
      exact ⟨before, standing⟩
    · rintro ⟨own, stands⟩
      exact ⟨some rpc, by rw [stands]; rfl⟩
  · exact Iff.rfl

/-- Who joins the RPC group is a member of the next view. -/
theorem noted_joinRpc {answer : handler}
    (joinRpc : hub.joinRpc? address answer = some (rpc, after)) (listens : hub.Listens other)
    (book : AddressBook) :
    after.noted other book = (hub.noted other book).restrict (hub.rpcView.joined rpc) := by
  obtain ⟨-, -, rfl⟩ := joinRpc?_eq_some joinRpc
  refine (noted_relocate _ address (fun receives => receives) (some rpc) other book).trans ?_
  exact noted_publish listens _ book

theorem handlers_joinRpc {answer : handler}
    (joinRpc : hub.joinRpc? address answer = some (rpc, after)) :
    after.handlers = hub.handlers ++ [(rpc, answer)] := by
  obtain ⟨-, -, rfl⟩ := joinRpc?_eq_some joinRpc
  rfl

/-- The hub when somebody has left the multicast group and receives nothing any more. -/
def silenced (hub : Hub source handler) (address : Address) : Hub source handler :=
  let silent := hub.relocate address (fun _ => false) none
  if silent.multicastView.contains address then
    silent.setMulticastView (silent.multicastView.left address)
  else
    silent

theorem leave_of_subscriber (receives : hub.isSubscriber address = true) :
    hub.leave address =
      match hub.rpcAddress? address with
      | some rpc => (hub.silenced address).leaveRpc rpc
      | none => hub.silenced address := by
  rw [leave, if_pos receives]
  rfl

theorem standing_silenced (hub : Hub source handler) (address other : Address) :
    (hub.silenced address).standing other =
      if other = address then (hub.standing other).map fun _ => (false, none)
      else hub.standing other := by
  refine Eq.trans ?_ (hub.standing_relocate address (fun _ => false) none other)
  rw [silenced]
  split
  · exact standing_deliver _ _ _ other
  · rfl

theorem standing_leave (receives : hub.isSubscriber address = true) (other : Address) :
    (hub.leave address).standing other =
      if other = address then (hub.standing other).map fun _ => (false, none)
      else hub.standing other := by
  rw [leave_of_subscriber receives, ← standing_silenced]
  cases hub.rpcAddress? address with
  | none => rfl
  | some rpc => exact standing_deliver _ _ _ other

/-- Whoever has left has no RPC address any more. -/
theorem rpcAddress?_leave (receives : hub.isSubscriber address = true) (other : Address) :
    (hub.leave address).rpcAddress? other =
      if other = address then none else hub.rpcAddress? other := by
  rw [rpcAddress?_eq, standing_leave receives, rpcAddress?_eq]
  split
  · cases hub.standing other with
    | none => rfl
    | some stands => rfl
  · rfl

/-- Whoever has left receives nothing, and everybody else goes on as before. -/
theorem listens_leave (distinct : (hub.members.map Member.address).Nodup)
    (address other : Address) :
    (hub.leave address).Listens other ↔ other ≠ address ∧ hub.Listens other := by
  by_cases receives : hub.isSubscriber address = true
  · rw [Listens, standing_leave receives, Listens]
    split
    · rename_i same
      refine ⟨?_, fun both => absurd same both.1⟩
      rintro ⟨rpc, stands⟩
      obtain ⟨-, -, gone⟩ := Option.map_eq_some_iff.mp stands
      simp at gone
    · rename_i differ
      exact ⟨fun stays => ⟨differ, stays⟩, And.right⟩
  · rw [leave, if_neg receives]
    refine ⟨fun listens => ⟨?_, listens⟩, And.right⟩
    rintro rfl
    exact receives ((isSubscriber_iff distinct).mpr listens)

theorem rpcView_silenced (hub : Hub source handler) (address : Address) :
    (hub.silenced address).rpcView = hub.rpcView := by
  rw [silenced]
  split
  · rfl
  · rfl

theorem rpcView_leave (receives : hub.isSubscriber address = true) :
    (hub.leave address).rpcView =
      match hub.rpcAddress? address with
      | some rpc => hub.rpcView.left rpc
      | none => hub.rpcView := by
  rw [leave_of_subscriber receives]
  cases hub.rpcAddress? address with
  | none => exact hub.rpcView_silenced address
  | some rpc => exact congrArg (fun view => View.left view rpc) (hub.rpcView_silenced address)

theorem handlers_leave (receives : hub.isSubscriber address = true) :
    (hub.leave address).handlers =
      match hub.rpcAddress? address with
      | some rpc => hub.handlers.filter fun entry => entry.1 ≠ rpc
      | none => hub.handlers := by
  have silenced : (hub.silenced address).handlers = hub.handlers := by
    rw [Hub.silenced]
    split
    · rfl
    · rfl
  rw [leave_of_subscriber receives, ← silenced]
  cases hub.rpcAddress? address with
  | none => rfl
  | some rpc => rfl

/-- Who leaves takes its RPC address along. -/
theorem noted_leave (receives : hub.isSubscriber address = true) (listens : hub.Listens other)
    (differ : other ≠ address) (book : AddressBook) :
    (hub.leave address).noted other book =
      match hub.rpcAddress? address with
      | some rpc => (hub.noted other book).restrict (hub.rpcView.left rpc)
      | none => hub.noted other book := by
  obtain ⟨own, stands⟩ := listens
  have silent : (hub.relocate address (fun _ => false) none).Listens other :=
    ⟨own, by rw [standing_relocate, if_neg differ, stands]⟩
  have still : (hub.silenced address).Listens other :=
    ⟨own, by rw [standing_silenced, if_neg differ, stands]⟩
  have before : (hub.silenced address).noted other book = hub.noted other book := by
    refine Eq.trans ?_ (hub.noted_relocate address (fun _ => false) none other book)
    rw [silenced]
    split
    · exact noted_publish silent _ book
    · rfl
  rw [leave_of_subscriber receives]
  cases hub.rpcAddress? address with
  | none => exact before
  | some rpc =>
      have view : ((hub.silenced address).leaveRpc rpc).noted other book =
          ((hub.silenced address).noted other book).restrict
            ((hub.silenced address).rpcView.left rpc) := noted_publish still _ book
      rw [view, before, rpcView_silenced]

/-! ## Posting -/

/-- Whom a message of a sender can reach, if it is for one process only or for all others. -/
def within (hub : Hub source handler) (sender : Address) (addressee : Option Address)
    (address : Address) : Bool :=
  decide (address ≠ sender) && hub.isReachable sender && hub.isReachable address &&
    addressee.all fun only => decide (address = only)

/-- A message to somebody who receives no events is refused, any other one gets to everybody whom it
can reach. -/
theorem send_eq (hub : Hub source handler) (sender : Address) (addressee : Option Address)
    (body : Multicast) :
    hub.send sender addressee body =
      match addressee.filter fun only => !hub.isSubscriber only with
      | some unknown => .error (.unreachable unknown)
      | none => .ok (hub.deliver (.message sender body) (hub.within sender addressee)) := by
  rw [send]
  cases addressee.filter fun only => !hub.isSubscriber only with
  | some unknown => rfl
  | none =>
      simp only [Wire.transmit_of_survives (Wire.survives_envelope _)]
      by_cases reachable : hub.isReachable sender = true
      · have whom : hub.within sender addressee = fun address =>
            decide (address ≠ sender) && hub.isReachable address &&
              addressee.all fun only => decide (address = only) := by
          funext address
          simp only [within, reachable, Bool.and_true]
        rw [if_pos reachable, whom]
      · have nobody : hub.within sender addressee = fun _ => false := by
          funext address
          simp [within, reachable]
        rw [if_neg reachable, nobody, deliver_eq, withQueues_self fun member _ => by simp]

/-- What becomes of an announcement: it gets to everybody else, unless one of the two is cut off. -/
theorem announce_eq_ok (announced : hub.announce address rpc = .ok after) :
    after = hub.deliver (.message address (.announce rpc address)) (hub.within address none) := by
  rw [announce, send_eq] at announced
  exact (Except.ok.inj announced).symm

theorem standing_announce (announced : hub.announce address rpc = .ok after) (other : Address) :
    after.standing other = hub.standing other := by
  rw [announce_eq_ok announced, standing_deliver]

theorem handlers_announce (announced : hub.announce address rpc = .ok after) :
    after.handlers = hub.handlers := by
  rw [announce_eq_ok announced]
  rfl

/-- Who announces itself gets into the address book of everybody who can hear it. -/
theorem noted_announce (announced : hub.announce address rpc = .ok after)
    (listens : hub.Listens other) (differ : other ≠ address) (book : AddressBook) :
    after.noted other book =
      if hub.isReachable address = true ∧ hub.isReachable other = true then
        (hub.noted other book).insert rpc address
      else hub.noted other book := by
  rw [announce_eq_ok announced, noted_deliver listens]
  simp [within, differ, Cluster.bookAfter]

end AuctionHouse.Hub
