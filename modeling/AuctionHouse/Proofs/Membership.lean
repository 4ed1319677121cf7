import AuctionHouse.Proofs.Asking

/-!
# Joining and leaving the groups

Who joins both groups and announces its addresses is one member more, under two new numbers, and
everybody else finds the new views and the announcement in the queue; who leaves is a member of
neither group any more, and everybody else finds the new views.  Apart from that the groups stay as
they are.
-/

namespace AuctionHouse

namespace Hub

variable {source handler : Type}

/-- What a member's queue holds after some more events were published. -/
def heard (events : List Event) (member : Member source) : List Event :=
  if member.isSubscribed then member.queue ++ events else member.queue

/-- Every number in use has been given out. -/
structure Numbered (hub : Hub source handler) : Prop where
  members : ∀ member ∈ hub.members, member.address.id ≤ hub.lastId
  view : ∀ rpc ∈ hub.rpcView.members, rpc.id ≤ hub.lastId
  handlers : ∀ entry ∈ hub.handlers, entry.1.id ≤ hub.lastId

theorem Numbered.withQueues {hub : Hub source handler} (numbered : hub.Numbered)
    (queue : Member source → List Event) : (hub.withQueues queue).Numbered where
  members := by
    intro member listed
    obtain ⟨old, isMember, rfl⟩ := List.mem_map.mp listed
    exact numbered.members old isMember
  view := numbered.view
  handlers := numbered.handlers

/-- What a subscriber finds who had read everything before. -/
theorem queueOf_heard {hub : Hub source handler}
    (distinct : (hub.members.map Member.address).Nodup) {member : Member source}
    (listed : member ∈ hub.members) (subscribed : member.isSubscribed = true)
    (empty : member.queue = []) (events : Address → List Event) :
    (hub.withQueues fun other => heard (events other.address) other).queueOf member.address =
      events member.address := by
  rw [queueOf_withQueues, member?_eq_some distinct listed]
  simp [heard, subscribed, empty]

theorem publish_eq (hub : Hub source handler) (event : Event) :
    hub.publish event = hub.withQueues (heard [event]) := by
  rw [publish, deliver_eq]
  refine withQueues_congr fun member _ => ?_
  simp only [Bool.and_true, heard]

/-- The membership of somebody to whom nothing has arrived. -/
def newcomer (state : source) (multicast : Address) (rpc : Option Address) : Member source :=
  { address := multicast, isSubscribed := true, source := some state, rpc, queue := [] }

/-- The hub with one member more, which answers under a new RPC address. -/
def admitted (hub : Hub source handler) (state : source) (answer : handler)
    (multicast rpc : Address) : Hub source handler :=
  { hub with
    lastId := hub.lastId + 1 + 1
    multicastView := hub.multicastView.joined multicast
    rpcView := hub.rpcView.joined rpc
    members := hub.members ++ [newcomer state multicast (some rpc)]
    handlers := hub.handlers ++ [(rpc, answer)] }

/-- What is published when a member joins both groups and announces itself; the announcement does
not reach the member itself. -/
def welcome (hub : Hub source handler) (multicast rpc : Address) (address : Address) :
    List Event :=
  [.multicastView (hub.multicastView.joined multicast), .rpcView (hub.rpcView.joined rpc)] ++
    if address = multicast then [] else [.message multicast (.announce rpc multicast)]

theorem allocate?_eq_some {hub after : Hub source handler} {channel : Channel} {address : Address}
    (allocated : hub.allocate? channel = some (address, after)) :
    hub.lastId.toNat + 1 < UInt64.size ∧ address = ⟨channel, hub.lastId + 1⟩ ∧
      after = { hub with lastId := hub.lastId + 1 } := by
  rw [allocate?] at allocated
  split at allocated
  · rename_i bound
    obtain ⟨rfl, rfl⟩ := Prod.mk.inj (Option.some.inj allocated)
    exact ⟨bound, rfl, rfl⟩
  · simp at allocated

theorem join?_eq_some {hub joined : Hub source handler} {state : source} {multicast : Address}
    (join : hub.join? state = some (multicast, joined)) :
    hub.lastId.toNat + 1 < UInt64.size ∧ multicast = ⟨.multicast, hub.lastId + 1⟩ ∧
      joined = { hub with
        lastId := hub.lastId + 1
        members := hub.members ++ [newcomer state multicast none]
        multicastView := hub.multicastView.joined multicast }.publish
          (.multicastView (hub.multicastView.joined multicast)) := by
  obtain ⟨⟨address, numbered⟩, allocated, result⟩ := Option.map_eq_some_iff.mp join
  obtain ⟨bound, rfl, rfl⟩ := allocate?_eq_some allocated
  obtain ⟨rfl, rfl⟩ := Prod.mk.inj result
  exact ⟨bound, rfl, rfl⟩

theorem joinRpc?_eq_some {hub serving : Hub source handler} {answer : handler}
    {multicast rpc : Address} (joinRpc : hub.joinRpc? multicast answer = some (rpc, serving)) :
    hub.lastId.toNat + 1 < UInt64.size ∧ rpc = ⟨.rpc, hub.lastId + 1⟩ ∧
      serving = ({ hub with
        lastId := hub.lastId + 1
        handlers := hub.handlers ++ [(rpc, answer)]
        rpcView := hub.rpcView.joined rpc }.publish
          (.rpcView (hub.rpcView.joined rpc))).modifyMember multicast
            fun member => { member with rpc := some rpc } := by
  obtain ⟨⟨address, numbered⟩, allocated, result⟩ := Option.map_eq_some_iff.mp joinRpc
  obtain ⟨bound, rfl, rfl⟩ := allocate?_eq_some allocated
  obtain ⟨rfl, rfl⟩ := Prod.mk.inj result
  exact ⟨bound, rfl, rfl⟩

/-- As long as there are numbers left somebody can join. -/
theorem exists_join {hub : Hub source handler} (room : hub.lastId.toNat + 1 < UInt64.size)
    (state : source) :
    ∃ multicast joined, hub.join? state = some (multicast, joined) ∧
      joined.lastId = hub.lastId + 1 := by
  rw [join?, allocate?, if_pos room]
  exact ⟨_, _, rfl, rfl⟩

theorem exists_joinRpc {hub : Hub source handler} (room : hub.lastId.toNat + 1 < UInt64.size)
    (multicast : Address) (answer : handler) :
    ∃ rpc serving, hub.joinRpc? multicast answer = some (rpc, serving) := by
  rw [joinRpc?, allocate?, if_pos room]
  exact ⟨_, _, rfl⟩

/-- Two addresses that are nobody's yet. -/
structure Free (hub : Hub source handler) (multicast rpc : Address) : Prop where
  members : ∀ member ∈ hub.members, member.address ≠ multicast
  view : rpc ∉ hub.rpcView.members
  handlers : ∀ entry ∈ hub.handlers, entry.1 ≠ rpc

theorem lt_next {number : UInt64} (bound : number.toNat + 1 < UInt64.size) :
    number < number + 1 := by
  rw [UInt64.lt_iff_toNat_lt, UInt64.toNat_add, UInt64.toNat_one, Nat.mod_eq_of_lt bound]
  exact Nat.lt_succ_self _

/-- Who joins both groups gets two new addresses. -/
theorem Numbered.free {hub joined serving : Hub source handler} {state : source}
    {answer : handler} {multicast rpc : Address} (numbered : hub.Numbered)
    (join : hub.join? state = some (multicast, joined))
    (joinRpc : joined.joinRpc? multicast answer = some (rpc, serving)) :
    hub.Free multicast rpc ∧ (hub.admitted state answer multicast rpc).Numbered := by
  obtain ⟨bound, rfl, rfl⟩ := join?_eq_some join
  obtain ⟨bound', rfl, -⟩ := joinRpc?_eq_some joinRpc
  have first : hub.lastId < hub.lastId + 1 := lt_next bound
  have second : hub.lastId + 1 < hub.lastId + 1 + 1 := lt_next bound'
  have below {id : UInt64} (used : id ≤ hub.lastId) : id < hub.lastId + 1 + 1 :=
    UInt64.lt_trans (UInt64.lt_of_le_of_lt used first) second
  refine ⟨⟨fun member listed same => ?_, fun listed => ?_, fun entry listed same => ?_⟩,
    ⟨fun member listed => ?_, fun other listed => ?_, fun entry listed => ?_⟩⟩
  · have used := UInt64.lt_of_le_of_lt (numbered.members member listed) first
    rw [same] at used
    exact UInt64.lt_irrefl _ used
  · exact UInt64.lt_irrefl _ (below (numbered.view _ listed))
  · have used := below (numbered.handlers entry listed)
    rw [same] at used
    exact UInt64.lt_irrefl _ used
  · rcases List.mem_append.mp listed with old | new
    · exact UInt64.le_of_lt (below (numbered.members member old))
    · obtain rfl := List.mem_singleton.mp new
      exact UInt64.le_of_lt second
  · rcases List.mem_append.mp listed with old | new
    · exact UInt64.le_of_lt (below (numbered.view other old))
    · obtain rfl := List.mem_singleton.mp new
      exact UInt64.le_refl _
  · rcases List.mem_append.mp listed with old | new
    · exact UInt64.le_of_lt (below (numbered.handlers entry old))
    · obtain rfl := List.mem_singleton.mp new
      exact UInt64.le_refl _

/-- An announcement of somebody who is not cut off reaches all others that are not. -/
theorem announce_eq {hub after : Hub source handler} {multicast rpc : Address}
    (connected : hub.isolated = []) (announce : hub.announce multicast rpc = .ok after) :
    after = hub.withQueues fun member =>
      if member.address = multicast then member.queue
      else heard [.message multicast (.announce rpc multicast)] member := by
  have reachable (address : Address) : hub.isReachable address = true := by
    simp [isReachable, connected]
  rw [Hub.announce, send] at announce
  simp only [Option.filter, reachable, if_true,
    Wire.transmit_of_survives (Wire.survives_envelope _)] at announce
  obtain rfl := Except.ok.inj announce
  rw [deliver_eq]
  refine withQueues_congr fun member _ => ?_
  by_cases own : member.address = multicast
  · simp [own]
  · simp [own, heard]

/-- Joining both groups and announcing oneself adds a member and a handler under new numbers. -/
theorem admitted_of_announce {hub joined serving after : Hub source handler} {state : source}
    {answer : handler} {multicast rpc : Address} (numbered : hub.Numbered)
    (connected : hub.isolated = []) (join : hub.join? state = some (multicast, joined))
    (joinRpc : joined.joinRpc? multicast answer = some (rpc, serving))
    (announce : serving.announce multicast rpc = .ok after) :
    after = (hub.admitted state answer multicast rpc).withQueues fun member =>
      heard (hub.welcome multicast rpc member.address) member := by
  obtain ⟨⟨fresh, -, -⟩, -⟩ := numbered.free join joinRpc
  obtain ⟨-, -, isJoined⟩ := join?_eq_some join
  obtain ⟨-, -, isServing⟩ := joinRpc?_eq_some joinRpc
  have reachable : serving.isolated = [] := by
    rw [isServing, isJoined]
    exact connected
  rw [announce_eq reachable announce]
  have members : (serving.withQueues fun member =>
        if member.address = multicast then member.queue
        else heard [.message multicast (.announce rpc multicast)] member).members =
      ((hub.admitted state answer multicast rpc).withQueues fun member =>
        heard (hub.welcome multicast rpc member.address) member).members := by
    rw [isServing, isJoined]
    simp only [withQueues, publish_eq, modifyMember, admitted, List.map_append, List.map_map]
    congr 1
    · refine List.map_congr_left fun member listed => ?_
      by_cases subscribed : member.isSubscribed = true
      · simp [fresh member listed, subscribed, heard, welcome]
      · simp [fresh member listed, subscribed, heard]
    · simp [newcomer, heard, welcome]
  rw [isServing, isJoined] at members ⊢
  exact congrArg (fun listed => { hub.admitted state answer multicast rpc with members := listed })
    members

/-- The hub without a member and its handler; the member's queue stays. -/
def dismissed (hub : Hub source handler) (multicast rpc : Address) : Hub source handler :=
  { hub with
    multicastView := hub.multicastView.left multicast
    rpcView := hub.rpcView.left rpc
    members := hub.members.map fun member =>
      if member.address = multicast then { member with isSubscribed := false, rpc := none }
      else member
    handlers := hub.handlers.filter fun entry => entry.1 ≠ rpc }

@[simp]
theorem addresses_dismissed (hub : Hub source handler) (multicast rpc : Address) :
    (hub.dismissed multicast rpc).members.map Member.address =
      hub.members.map Member.address := by
  simp only [dismissed, List.map_map]
  refine List.map_congr_left fun member _ => ?_
  simp only [Function.comp_apply]
  split
  · rfl
  · rfl

/-- Whoever does not leave stays the same. -/
theorem mem_dismissed {hub : Hub source handler} {multicast rpc : Address}
    {member : Member source} (listed : member ∈ hub.members) (other : member.address ≠ multicast) :
    member ∈ (hub.dismissed multicast rpc).members :=
  List.mem_map.mpr ⟨member, listed, if_neg other⟩

theorem Numbered.dismissed {hub : Hub source handler} (numbered : hub.Numbered)
    (multicast rpc : Address) : (hub.dismissed multicast rpc).Numbered where
  members := by
    intro member listed
    have named : member.address ∈ hub.members.map Member.address := by
      rw [← hub.addresses_dismissed multicast rpc]
      exact List.mem_map_of_mem listed
    obtain ⟨old, isMember, same⟩ := List.mem_map.mp named
    exact same ▸ numbered.members old isMember
  view := fun other listed => numbered.view other (List.mem_of_mem_filter listed)
  handlers := fun entry listed => numbered.handlers entry (List.mem_of_mem_filter listed)

/-- Leaving takes a member out of both groups and tells everybody else. -/
theorem leave_eq {hub : Hub source handler} (distinct : (hub.members.map Member.address).Nodup)
    {member : Member source} (listed : member ∈ hub.members)
    (subscribed : member.isSubscribed = true) {rpc : Address} (answers : member.rpc = some rpc)
    (grouped : member.address ∈ hub.multicastView.members) :
    hub.leave member.address = (hub.dismissed member.address rpc).withQueues
      (heard [.multicastView (hub.multicastView.left member.address),
        .rpcView (hub.rpcView.left rpc)]) := by
  have receives : hub.isSubscriber member.address = true :=
    List.any_eq_true.mpr ⟨member, listed, by simp [subscribed]⟩
  have known : hub.rpcAddress? member.address = some rpc := by
    rw [rpcAddress?, member?_eq_some distinct listed]
    exact answers
  have present : (hub.modifyMember member.address fun member =>
      { member with isSubscribed := false, rpc := none }).multicastView.contains member.address =
      true := decide_eq_true grouped
  rw [leave, if_pos receives]
  simp only [known, present, if_true, leaveRpc, setMulticastView, setRpcView, publish_eq]
  have twice : ((hub.dismissed member.address rpc).withQueues
        (heard [.multicastView (hub.multicastView.left member.address)])).withQueues
        (heard [.rpcView (hub.rpcView.left rpc)]) =
      (hub.dismissed member.address rpc).withQueues
        (heard [.multicastView (hub.multicastView.left member.address),
          .rpcView (hub.rpcView.left rpc)]) := by
    refine (withQueues_withQueues _ _ _).trans (withQueues_congr fun other _ => ?_)
    by_cases hears : other.isSubscribed = true
    · simp [heard, hears]
    · simp [heard, hears]
  exact twice

end Hub

/-! ## One step of joining at a time -/

namespace Hub

variable {source handler : Type} {hub joined : Hub source handler} {state : source}
  {multicast : Address}

/-- No command waits in the queue of an address. -/
def Uncommanded (hub : Hub source handler) (address : Address) : Prop :=
  ∀ member ∈ hub.members, member.address = address → member.queue.filterMap Event.peer? = []

theorem Uncommanded.deliver {address : Address} (quiet : hub.Uncommanded address) {event : Event}
    (harmless : event.peer? = none) (chosen : Address → Bool) :
    (hub.deliver event chosen).Uncommanded address := by
  intro member listed named
  rw [deliver_eq] at listed
  obtain ⟨old, isMember, rfl⟩ := List.mem_map.mp listed
  simp only
  split
  · rw [List.filterMap_append, quiet old isMember named]
    simp [harmless]
  · exact quiet old isMember named

/-- Joining commands nothing. -/
theorem Uncommanded.of_join {address : Address} (quiet : hub.Uncommanded address)
    (join : hub.join? state = some (multicast, joined)) : joined.Uncommanded address := by
  obtain ⟨-, -, rfl⟩ := join?_eq_some join
  refine Uncommanded.deliver (fun member listed named => ?_) rfl _
  rcases List.mem_append.mp listed with old | new
  · exact quiet member old named
  · obtain rfl := List.mem_singleton.mp new
    rfl

theorem Uncommanded.of_joinRpc {address : Address} (quiet : hub.Uncommanded address)
    {serving : Hub source handler} {answer : handler} {rpc : Address}
    (joinRpc : hub.joinRpc? multicast answer = some (rpc, serving)) :
    serving.Uncommanded address := by
  obtain ⟨-, -, rfl⟩ := joinRpc?_eq_some joinRpc
  have published : ({ hub with
      lastId := hub.lastId + 1
      handlers := hub.handlers ++ [(rpc, answer)]
      rpcView := hub.rpcView.joined rpc }.publish
        (.rpcView (hub.rpcView.joined rpc))).Uncommanded address :=
    Uncommanded.deliver quiet rfl fun _ => true
  intro member listed named
  obtain ⟨old, isMember, rfl⟩ := List.mem_map.mp listed
  by_cases own : old.address = multicast
  · rw [if_pos own] at named ⊢
    exact published old isMember named
  · rw [if_neg own] at named ⊢
    exact published old isMember named

/-- Whoever announces itself can do so, and commands nothing by it. -/
theorem exists_announce (hub : Hub source handler) (multicast rpc : Address) :
    ∃ after, hub.announce multicast rpc = .ok after ∧
      ∀ address, hub.Uncommanded address → after.Uncommanded address := by
  rw [announce, send]
  simp only [Option.filter, Wire.transmit_of_survives (Wire.survives_envelope _)]
  split
  · exact ⟨_, rfl, fun address quiet => quiet.deliver rfl _⟩
  · exact ⟨hub, rfl, fun address quiet => quiet⟩

/-- Who joins both groups and announces itself commands nothing. -/
theorem Uncommanded.of_announce {address : Address} (quiet : hub.Uncommanded address)
    (join : hub.join? state = some (multicast, joined)) {serving after : Hub source handler}
    {answer : handler} {rpc : Address}
    (joinRpc : joined.joinRpc? multicast answer = some (rpc, serving))
    (announce : serving.announce multicast rpc = .ok after) : after.Uncommanded address := by
  obtain ⟨found, same, harmless⟩ := serving.exists_announce multicast rpc
  obtain rfl := Except.ok.inj (same.symm.trans announce)
  exact harmless address ((quiet.of_join join).of_joinRpc joinRpc)

theorem addresses_of_join (join : hub.join? state = some (multicast, joined)) :
    joined.members.map Member.address = hub.members.map Member.address ++ [multicast] := by
  obtain ⟨-, -, rfl⟩ := join?_eq_some join
  rw [publish_eq, addresses_withQueues, List.map_append]
  rfl

theorem view_of_join (join : hub.join? state = some (multicast, joined)) :
    joined.multicastView.members = hub.multicastView.members ++ [multicast] := by
  obtain ⟨-, -, rfl⟩ := join?_eq_some join
  rfl

/-- Nobody has the address that somebody gets who joins. -/
theorem Numbered.ne_of_join (numbered : hub.Numbered)
    (join : hub.join? state = some (multicast, joined)) {address : Address}
    (used : address ∈ hub.members.map Member.address) : address ≠ multicast := by
  obtain ⟨bound, rfl, -⟩ := join?_eq_some join
  obtain ⟨member, listed, rfl⟩ := List.mem_map.mp used
  intro same
  have below := UInt64.lt_of_le_of_lt (numbered.members member listed) (lt_next bound)
  rw [same] at below
  exact UInt64.lt_irrefl _ below

theorem Numbered.of_join (numbered : hub.Numbered)
    (join : hub.join? state = some (multicast, joined)) : joined.Numbered := by
  obtain ⟨bound, rfl, rfl⟩ := join?_eq_some join
  have next {id : UInt64} (used : id ≤ hub.lastId) : id ≤ hub.lastId + 1 :=
    UInt64.le_of_lt (UInt64.lt_of_le_of_lt used (lt_next bound))
  rw [publish_eq]
  refine Numbered.withQueues ⟨fun member listed => ?_, fun rpc listed => ?_,
    fun entry listed => ?_⟩ _
  · rcases List.mem_append.mp listed with old | new
    · exact next (numbered.members member old)
    · obtain rfl := List.mem_singleton.mp new
      exact UInt64.le_refl _
  · exact next (numbered.view rpc listed)
  · exact next (numbered.handlers entry listed)

/-- Who joins hands over its state, and everybody else goes on as before. -/
theorem Numbered.sourceOf_join (numbered : hub.Numbered)
    (join : hub.join? state = some (multicast, joined)) (asking giving : Address) :
    joined.sourceOf asking giving =
      if giving = multicast then
        if hub.isReachable asking && hub.isReachable multicast then .ok state
        else .error (.unreachable multicast)
      else hub.sourceOf asking giving := by
  have fresh : ∀ member ∈ hub.members, member.address ≠ multicast := fun member listed =>
    numbered.ne_of_join join (List.mem_map_of_mem listed)
  obtain ⟨-, -, rfl⟩ := join?_eq_some join
  rw [publish_eq, sourceOf_withQueues, sourceOf_eq]
  simp only [List.find?_append]
  by_cases own : giving = multicast
  · subst own
    have absent : (hub.members.find? fun member =>
        member.isSubscribed && decide (member.address = giving)) = none :=
      List.find?_eq_none.mpr fun member listed => by simp [fresh member listed]
    simp [absent, newcomer]
    rfl
  · have other : ([newcomer state multicast none].find? fun member =>
        member.isSubscribed && decide (member.address = giving)) = none :=
      List.find?_eq_none.mpr fun member listed => by
        obtain rfl := List.mem_singleton.mp listed
        simp [newcomer, Ne.symm own]
    rw [if_neg own, other, Option.or_none, sourceOf_eq]
    rfl

end Hub

/-! ## Who answers -/

namespace Hub

variable (hub : Hub StateSource Answerer) {multicast rpc : Address}

theorem nodeBehind?_admitted_self (fresh : ∀ entry ∈ hub.handlers, entry.1 ≠ rpc)
    (state : StateSource) (address : Address) :
    (hub.admitted state (.node address) multicast rpc).nodeBehind? rpc = some address := by
  have absent : hub.handlers.find? (fun entry => decide (entry.1 = rpc)) = none := by
    simpa using fresh
  simp only [nodeBehind?, admitted, List.find?_append, absent]
  simp

theorem nodeBehind?_admitted_of_some (state : StateSource) (answer : Answerer)
    {other address : Address} (behind : hub.nodeBehind? other = some address) :
    (hub.admitted state answer multicast rpc).nodeBehind? other = some address := by
  rw [nodeBehind?] at behind ⊢
  split at behind
  · rename_i key found named
    simp only [admitted, List.find?_append, named, Option.some_or]
    exact behind
  · simp at behind

theorem nodeBehind?_dismissed {other : Address} (differ : other ≠ rpc) :
    (hub.dismissed multicast rpc).nodeBehind? other = hub.nodeBehind? other := by
  have found : (hub.handlers.filter fun entry => entry.1 ≠ rpc).find?
        (fun entry => decide (entry.1 = other)) =
      hub.handlers.find? fun entry => decide (entry.1 = other) := by
    rw [List.find?_filter]
    refine congrArg (fun test => hub.handlers.find? test) (funext fun entry => ?_)
    by_cases same : entry.1 = other
    · simp [same, differ]
    · simp [same]
  rw [nodeBehind?, nodeBehind?, dismissed, found]

end Hub

end AuctionHouse
