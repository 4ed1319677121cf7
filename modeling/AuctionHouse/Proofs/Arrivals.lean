import AuctionHouse.Proofs.Starting
import AuctionHouse.Proofs.Undisturbed

/-!
# A node more

A node that starts in an undisturbed cluster finds a place in both groups, the coordinator is told
its addresses, and it holds the state of the oldest node that serves.  Nobody is told to copy
anything, so all others go on as before.
-/

namespace AuctionHouse.Cluster

variable {cluster : Cluster} {me : Address}

theorem running_enlarged (cluster : Cluster) (hub : Hub StateSource Answerer) {node : Node}
    (serving : node.phase = .serving) :
    (cluster.enlarged hub node).running = cluster.running ++ [node] := by
  simp [running, enlarged, List.filter_append, serving]

/-- Behind the new RPC address is the new node; behind the other ones are the same as before. -/
theorem Arranged.behind_admitted (arranged : cluster.Arranged) {multicast rpc : Address}
    (free : cluster.hub.Free multicast rpc) {hub : Hub StateSource Answerer}
    (isHub : hub = cluster.hub.admitted .node (.node multicast) multicast rpc) {other : Address}
    (listed : other ∈ hub.rpcView.members) :
    other = rpc ∧ hub.nodeBehind? other = some multicast ∨
      other ∈ cluster.hub.rpcView.members ∧ ∃ node ∈ cluster.running,
        cluster.hub.nodeBehind? other = some node.address ∧
          hub.nodeBehind? other = some node.address := by
  subst isHub
  rcases List.mem_append.mp listed with before | new
  · obtain ⟨node, isRunning, behind⟩ := arranged.answered other before
    exact .inr ⟨before, node, isRunning, behind,
      Hub.nodeBehind?_admitted_of_some _ _ _ behind⟩
  · obtain rfl := List.mem_singleton.mp new
    exact .inl ⟨rfl, Hub.nodeBehind?_admitted_self _ free.handlers _ _⟩

/-- A new node finds a place. -/
theorem Arranged.enlarged (arranged : cluster.Arranged) {multicast rpc : Address}
    (free : cluster.hub.Free multicast rpc)
    (others : ∀ coordinator ∈ cluster.coordinators, coordinator.address ≠ multicast)
    (joined : ∀ node ∈ cluster.nodes, node.address ≠ multicast)
    {hub : Hub StateSource Answerer}
    (isHub : hub = cluster.hub.admitted .node (.node multicast) multicast rpc) {node : Node}
    (named : node.address = multicast) (serving : node.phase = .serving)
    (limit : node.replica.probeLimit = cluster.settings.probeLimit) :
    (cluster.enlarged hub node).Arranged := by
  have runs := cluster.running_enlarged hub serving
  have view : hub.rpcView.members = cluster.hub.rpcView.members ++ [rpc] := by
    rw [isHub]
    rfl
  have members : hub.members =
      cluster.hub.members ++ [Hub.newcomer .node multicast (some rpc)] := by
    rw [isHub]
    rfl
  have behind {other : Address} (listed : other ∈ hub.rpcView.members) :=
    arranged.behind_admitted free isHub listed
  have isNew : rpc ∈ hub.rpcView.members := by simp [view]
  constructor
  case nodes =>
    rw [Cluster.enlarged, List.map_append]
    refine arranged.nodes.append (by simp) ?_
    simpa [named] using fun node listed => joined node listed
  case members =>
    change (hub.members.map Member.address).Nodup
    rw [members, List.map_append]
    refine arranged.members.append (by simp) ?_
    simpa [Hub.newcomer] using fun member listed => free.members member listed
  case apart =>
    intro coordinator listed other isRunning
    rw [runs] at isRunning
    rcases List.mem_append.mp isRunning with before | new
    · exact arranged.apart coordinator listed other before
    · obtain rfl := List.mem_singleton.mp new
      rw [named]
      exact others coordinator listed
  case view =>
    change hub.rpcView.members.Nodup
    rw [view]
    exact arranged.view.append (by simp) (by simpa using free.view)
  case answered =>
    intro other listed
    rw [runs]
    rcases behind listed with ⟨-, found⟩ | ⟨-, old, isRunning, -, found⟩
    · exact ⟨node, by simp, by rw [named]; exact found⟩
    · exact ⟨old, List.mem_append_left _ isRunning, found⟩
  case singly =>
    intro left isLeft right isRight same
    change hub.nodeBehind? left = hub.nodeBehind? right at same
    have apart {old : Node} (isRunning : old ∈ cluster.running) :
        some old.address ≠ some multicast := fun equal =>
      joined old (mem_running_iff.mp isRunning).1 (Option.some.inj equal)
    rcases behind isLeft with ⟨rfl, isLeft⟩ | ⟨leftOld, _, leftRuns, leftBefore, leftNow⟩
    · rcases behind isRight with ⟨rfl, -⟩ | ⟨-, _, isRunning, -, rightNow⟩
      · rfl
      · rw [isLeft, rightNow] at same
        exact absurd same.symm (apart isRunning)
    · rcases behind isRight with ⟨rfl, isRight⟩ | ⟨rightOld, _, -, rightBefore, rightNow⟩
      · rw [leftNow, isRight] at same
        exact absurd same (apart leftRuns)
      · exact arranged.singly left leftOld right rightOld
          (by rw [leftBefore, rightBefore, ← leftNow, ← rightNow, same])
  case enrolled =>
    intro other isRunning
    rw [runs] at isRunning
    rcases List.mem_append.mp isRunning with before | new
    · obtain ⟨member, listed, same, subscribed, source, under, isUnder, answers, found⟩ :=
        arranged.enrolled other before
      have isMember : member ∈ hub.members := by simp [members, listed]
      have isListed : under ∈ hub.rpcView.members := by simp [view, isUnder]
      have still : hub.nodeBehind? under = some other.address := by
        rw [isHub]
        exact Hub.nodeBehind?_admitted_of_some _ _ _ found
      exact ⟨member, isMember, same, subscribed, source, under, isListed, answers, still⟩
    · obtain rfl := List.mem_singleton.mp new
      have isMember : Hub.newcomer .node multicast (some rpc) ∈ hub.members := by simp [members]
      have found : hub.nodeBehind? rpc = some other.address := by
        rw [isHub, named]
        exact Hub.nodeBehind?_admitted_self _ free.handlers _ _
      exact ⟨_, isMember, named.symm, rfl, rfl, rpc, isNew, rfl, found⟩
  case configured =>
    intro other listed
    rcases List.mem_append.mp listed with before | new
    · exact arranged.configured other before
    · obtain rfl := List.mem_singleton.mp new
      exact limit

/-- A book in which only current members are kept and a new one is noted. -/
theorem find?_bookAfter_welcome (book : AddressBook) (hub : Hub StateSource Answerer)
    {multicast rpc address : Address} (other : address ≠ multicast) {asked : Address}
    (listed : asked ∈ (hub.rpcView.joined rpc).members) :
    ((hub.welcome multicast rpc address).foldl bookAfter book).find? asked =
      if asked = rpc then some multicast else book.find? asked := by
  have contained : (hub.rpcView.joined rpc).contains asked = true := decide_eq_true listed
  simp [Hub.welcome, other, bookAfter, AddressBook.find?_insert, AddressBook.find?_restrict,
    contained]

/-- A new node finds its place among the others, whatever waits in the queues. -/
theorem Placed.enlarged (placed : cluster.Placed me) {multicast rpc : Address}
    (free : cluster.hub.Free multicast rpc)
    (numbered : (cluster.hub.admitted .node (.node multicast) multicast rpc).Numbered)
    {given : Replica} (limit : given.probeLimit = cluster.settings.probeLimit)
    (queue : Member StateSource → List Event) :
    (cluster.enlarged
      ((cluster.hub.admitted .node (.node multicast) multicast rpc).withQueues queue)
      ⟨multicast, given, .serving⟩).Placed me := by
  obtain ⟨coordinating, isMember, isMe, subscribed⟩ := placed.listening
  have apart : me ≠ multicast := isMe ▸ free.members coordinating isMember
  have others : ∀ coordinator ∈ cluster.coordinators, coordinator.address ≠ multicast := by
    intro coordinator listed same
    have named : coordinator.address ∈ cluster.coordinators.map Coordinator.address :=
      List.mem_map_of_mem listed
    rw [placed.sole, List.mem_singleton] at named
    exact apart (named.symm.trans same)
  have joined : ∀ node ∈ cluster.nodes, node.address ≠ multicast := by
    intro node listed
    obtain ⟨member, isMember, same⟩ := List.mem_map.mp (placed.joined node listed)
    exact same ▸ free.members member isMember
  obtain ⟨hub, isHub⟩ : ∃ hub,
    hub = cluster.hub.admitted .node (.node multicast) multicast rpc := ⟨_, rfl⟩
  have arranged : (cluster.enlarged hub ⟨multicast, given, .serving⟩).Arranged :=
    placed.toArranged.enlarged free others joined isHub rfl rfl limit
  have listening : coordinating ∈ hub.members := by
    rw [isHub]
    exact List.mem_append_left _ isMember
  rw [← isHub]
  constructor
  case toArranged => exact arranged.requeue _
  case whole =>
    rw [isHub]
    exact placed.whole
  case sole => exact placed.sole
  case listening => exact ⟨_, List.mem_map_of_mem listening, isMe, subscribed⟩
  case grouped =>
    rw [running_enlarged _ _ rfl, List.map_append, ← placed.grouped, isHub]
    rfl
  case joined =>
    intro node listed
    change node.address ∈ (hub.withQueues _).members.map Member.address
    rw [Hub.addresses_withQueues, isHub]
    change _ ∈ (cluster.hub.members ++ [_]).map Member.address
    rw [List.map_append]
    rcases List.mem_append.mp listed with before | new
    · exact List.mem_append_left _ (placed.joined node before)
    · obtain rfl := List.mem_singleton.mp new
      simp [Hub.newcomer]
  case numbered =>
    rw [← isHub] at numbered
    exact numbered.withQueues _

/-- A new node leaves a cluster undisturbed, when the coordinator has read everything before. -/
theorem Undisturbed.enlarged (undisturbed : cluster.Undisturbed me) (drained : cluster.Drained)
    {multicast rpc : Address} (free : cluster.hub.Free multicast rpc)
    (numbered : (cluster.hub.admitted .node (.node multicast) multicast rpc).Numbered)
    {given : Replica} (limit : given.probeLimit = cluster.settings.probeLimit) :
    (cluster.enlarged
      ((cluster.hub.admitted .node (.node multicast) multicast rpc).withQueues fun member =>
        Hub.heard (cluster.hub.welcome multicast rpc member.address) member)
      ⟨multicast, given, .serving⟩).Undisturbed me where
  toPlaced := undisturbed.toPlaced.enlarged free numbered limit _
  told := by
    intro asked listed
    obtain ⟨coordinating, isMember, isMe, subscribed⟩ := undisturbed.listening
    have apart : me ≠ multicast := isMe ▸ free.members coordinating isMember
    have arranged := (undisturbed.toPlaced.enlarged free numbered limit Member.queue).toArranged
    obtain ⟨hub, isHub⟩ : ∃ hub,
      hub = cluster.hub.admitted .node (.node multicast) multicast rpc := ⟨_, rfl⟩
    have distinct : (hub.members.map Member.address).Nodup := by
      have members := arranged.members
      rw [← isHub] at members
      change ((hub.withQueues Member.queue).members.map Member.address).Nodup at members
      rwa [Hub.addresses_withQueues] at members
    have listening : coordinating ∈ hub.members := by
      rw [isHub]
      exact List.mem_append_left _ isMember
    have waiting : (hub.withQueues fun member =>
        Hub.heard (cluster.hub.welcome multicast rpc member.address) member).queueOf me =
        cluster.hub.welcome multicast rpc me := by
      rw [← isMe]
      exact Hub.queueOf_heard distinct listening subscribed
        (drained coordinating isMember (isMe ▸ undisturbed.me_listens)) _
    rw [← isHub] at listed ⊢
    change asked ∈ hub.rpcView.members at listed
    have view : hub.rpcView = cluster.hub.rpcView.joined rpc := by
      rw [isHub]
      rfl
    have read := find?_bookAfter_welcome (cluster.bookOf me) cluster.hub apart (view ▸ listed)
    refine (congrArg (fun events => AddressBook.find? (events.foldl bookAfter
      (cluster.bookOf me)) asked) waiting).trans (read.trans ?_)
    change _ = hub.nodeBehind? asked
    rcases undisturbed.toArranged.behind_admitted free isHub listed with
      ⟨rfl, found⟩ | ⟨before, old, -, known, found⟩
    · rw [if_pos rfl, found]
    · have differ : asked ≠ rpc := by
        rintro rfl
        exact free.view before
      rw [if_neg differ, undisturbed.informed drained asked before, known, found]

theorem Undisturbed.quiescent (undisturbed : cluster.Undisturbed me) (drained : cluster.Drained) :
    cluster.Quiescent where
  nodes := undisturbed.nodes
  apart := undisturbed.apart
  drained := drained
  numbered := undisturbed.numbered
  joined := undisturbed.joined
  attached := by
    intro coordinator listed
    have named : coordinator.address ∈ cluster.coordinators.map Coordinator.address :=
      List.mem_map_of_mem listed
    rw [undisturbed.sole] at named
    obtain ⟨member, isMember, isMe, -⟩ := undisturbed.listening
    rw [List.mem_singleton.mp named, ← isMe]
    exact List.mem_map_of_mem isMember
  grouped := by
    intro address listed
    rw [undisturbed.grouped] at listed
    obtain ⟨node, isRunning, rfl⟩ := List.mem_map.mp listed
    exact undisturbed.joined node (mem_running_iff.mp isRunning).1

/-- What a joining node gets from another one is what that one holds. -/
theorem Undisturbed.fetchSnapshot_joining (undisturbed : cluster.Undisturbed me)
    (drained : cluster.Drained) (texts : cluster.Storable) {multicast : Address}
    {joined : Hub StateSource Answerer} (join : cluster.hub.join? .node = some (multicast, joined))
    {node : Node} (isRunning : node ∈ cluster.running) :
    (cluster.enlarged joined (cluster.joining multicast)).fetchSnapshot multicast node.address =
      .ok node.replica.snapshot := by
  have quiescent := undisturbed.quiescent drained
  have connected (address : Address) : cluster.hub.isReachable address = true := by
    simp [Hub.isReachable, undisturbed.whole]
  have fetched := (undisturbed.orderly drained).fetchSnapshot_eq isRunning
    (texts node isRunning) multicast
  rw [connected, connected, if_pos (by rfl)] at fetched
  have other := quiescent.ne_of_join join node (mem_running_iff.mp isRunning).1
  rw [quiescent.fetchSnapshot_enlarged join rfl (cluster.storable_joining multicast),
    if_neg other]
  exact fetched

/-- The oldest other member of the group that a node has joined is the oldest node that serves. -/
theorem Placed.oldestOther?_of_join (placed : cluster.Placed me) {multicast : Address}
    {joined : Hub StateSource Answerer}
    (join : cluster.hub.join? .node = some (multicast, joined))
    (fresh : ∀ node ∈ cluster.nodes, node.address ≠ multicast) :
    joined.multicastView.oldestOther? multicast = cluster.running.head?.map Node.address := by
  obtain ⟨-, -, rfl⟩ := Hub.join?_eq_some join
  change (cluster.hub.multicastView.members ++ [multicast]).find? _ = _
  rw [placed.grouped]
  cases runs : cluster.running with
  | nil => simp
  | cons node rest =>
      have isRunning : node ∈ cluster.running := by simp [runs]
      have differ := fresh node (mem_running_iff.mp isRunning).1
      simp [differ]

/-- A joining node takes over the state of the oldest one that serves, or begins anew. -/
private theorem Undisturbed.given_eq (undisturbed : cluster.Undisturbed me)
    (drained : cluster.Drained) (texts : cluster.Storable) {multicast : Address}
    {joined : Hub StateSource Answerer} (join : cluster.hub.join? .node = some (multicast, joined))
    (fresh : ∀ node ∈ cluster.nodes, node.address ≠ multicast) {given : Replica}
    (anew : joined.multicastView.oldestOther? multicast = none →
      given = Replica.first cluster.settings cluster.seed)
    (taken : ∀ peer, joined.multicastView.oldestOther? multicast = some peer → ∃ snapshot,
      (cluster.enlarged joined (cluster.joining multicast)).fetchSnapshot multicast peer =
        .ok snapshot ∧ given = (cluster.joining multicast).replica.restore snapshot) :
    given = (cluster.running.head?.map Node.replica).getD
      (Replica.first cluster.settings cluster.seed) := by
  have oldest := undisturbed.oldestOther?_of_join join fresh
  cases runs : cluster.running with
  | nil =>
      rw [runs] at oldest
      exact anew oldest
  | cons node rest =>
      rw [runs] at oldest
      have isRunning : node ∈ cluster.running := by simp [runs]
      obtain ⟨snapshot, fetched, rfl⟩ := taken node.address oldest
      rw [undisturbed.fetchSnapshot_joining drained texts join isRunning] at fetched
      obtain rfl := Except.ok.inj fetched
      refine Replica.eq_of_snapshot rfl ?_
      exact (undisturbed.configured node (mem_running_iff.mp isRunning).1).symm

/-- What a node holds that has just started: the state of the oldest node that serves, or that of
the first. -/
def heir (cluster : Cluster) : Replica :=
  (cluster.running.head?.map Node.replica).getD (Replica.first cluster.settings cluster.seed)

/-- The cluster when a node has started and nobody has read yet what was published. -/
def welcomed (cluster : Cluster) (multicast rpc : Address) : Cluster :=
  cluster.enlarged
    ((cluster.hub.admitted .node (.node multicast) multicast rpc).withQueues fun member =>
      Hub.heard (cluster.hub.welcome multicast rpc member.address) member)
    ⟨multicast, cluster.heir, .serving⟩

/-- A node that has started is a member under two new addresses, and everybody has read so. -/
theorem Undisturbed.startNode_eq (undisturbed : cluster.Undisturbed me) (drained : cluster.Drained)
    (texts : cluster.Storable) {multicast rpc : Address} {after : Cluster}
    (start : cluster.startNode = (.ok (multicast, rpc), after)) :
    cluster.hub.Free multicast rpc ∧ rpc.channel = .rpc ∧
      (cluster.hub.admitted .node (.node multicast) multicast rpc).Numbered ∧
      after = (cluster.welcomed multicast rpc).quieted (cluster.welcomed multicast rpc).listeners := by
  have quiescent := undisturbed.quiescent drained
  obtain ⟨joined, given, serving, announced, join, joinRpc, announce, anew, taken, rfl⟩ :=
    startNode_eq_ok quiescent.id_le_lastId start
  obtain ⟨free, numbered'⟩ := undisturbed.numbered.free join joinRpc
  have isHub := Hub.admitted_of_announce undisturbed.numbered undisturbed.whole join joinRpc
    announce
  have isGiven : given = cluster.heir :=
    undisturbed.given_eq drained texts join (quiescent.ne_of_join join) anew taken
  have isWelcomed : cluster.enlarged announced ⟨multicast, given, .serving⟩ =
      cluster.welcomed multicast rpc := by
    rw [isHub, isGiven]
    rfl
  have channel : rpc.channel = .rpc := by
    rw [(Hub.joinRpc?_eq_some joinRpc).2.1]
  refine ⟨free, channel, numbered', ?_⟩
  rw [← isWelcomed]
  exact quiescent.settle_enlarged join
    (fun address quiet => quiet.of_announce join joinRpc announce) rfl

theorem Undisturbed.probeLimit_heir (undisturbed : cluster.Undisturbed me) :
    cluster.heir.probeLimit = cluster.settings.probeLimit := by
  rw [heir]
  cases runs : cluster.running with
  | nil => exact Replica.probeLimit_first _ _
  | cons node rest =>
      have isRunning : node ∈ cluster.running := by simp [runs]
      exact undisturbed.configured node (mem_running_iff.mp isRunning).1

/-- A node that starts takes over the state of the oldest one that serves, or begins anew. -/
theorem Undisturbed.startNode (undisturbed : cluster.Undisturbed me) (drained : cluster.Drained)
    (texts : cluster.Storable) {multicast rpc : Address} {after : Cluster}
    (start : cluster.startNode = (.ok (multicast, rpc), after)) :
    after.Undisturbed me ∧ after.Drained ∧
      after.running = cluster.running ++ [⟨multicast,
        (cluster.running.head?.map Node.replica).getD
          (Replica.first cluster.settings cluster.seed), .serving⟩] ∧
      after.configuration = cluster.configuration := by
  obtain ⟨free, -, numbered, rfl⟩ := undisturbed.startNode_eq drained texts start
  have enlarged : (cluster.welcomed multicast rpc).Undisturbed me :=
    undisturbed.enlarged drained free numbered undisturbed.probeLimit_heir
  refine ⟨enlarged.quieted enlarged.me_listens, drained_quieted fun address listens => listens,
    ?_, rfl⟩
  exact cluster.running_enlarged (cluster.welcomed multicast rpc).hub rfl

end AuctionHouse.Cluster
