import AuctionHouse.Proofs.Acquaintance
import AuctionHouse.Proofs.Arrivals
import AuctionHouse.Proofs.Unison

/-!
# Starting while others listen

A node that starts joins the multicast group, gets a state, joins the RPC group and announces
itself, and all the while listeners take steps.  If the nodes that serve agree, it does not matter
which.  Nobody is told to copy the state of the newcomer, which has none yet; what it gets is what
all others hold; and once it serves it is one node more that agrees with them.
-/

namespace AuctionHouse

/-! ## Hubs that differ in their queues -/

namespace Hub

variable {source handler : Type} {hub other joined serving after : Hub source handler}

/-- The hub with nothing in its queues. -/
def emptied (hub : Hub source handler) : Hub source handler := hub.withQueues fun _ => []

@[simp]
theorem emptied_withQueues (hub : Hub source handler) (queue : Member source → List Event) :
    (hub.withQueues queue).emptied = hub.emptied :=
  withQueues_withQueues _ _ _

/-- Hubs that are the same without their queues differ in their queues only. -/
theorem exists_withQueues (distinct : (other.members.map Member.address).Nodup)
    (same : hub.emptied = other.emptied) : ∃ queue, hub = other.withQueues queue := by
  have addresses : hub.members.map Member.address = other.members.map Member.address := by
    rw [← addresses_withQueues hub fun _ => [], ← addresses_withQueues other fun _ => []]
    exact congrArg (fun hub => hub.members.map Member.address) same
  have requeued : hub.emptied.withQueues (fun member => hub.queueOf member.address) = hub := by
    rw [emptied, withQueues_withQueues]
    refine withQueues_self fun member listed => ?_
    rw [queueOf, member?_eq_some (addresses ▸ distinct) listed]
    rfl
  rw [same, emptied, withQueues_withQueues] at requeued
  exact ⟨_, requeued.symm⟩

/-- Joining both groups adds a member and a handler under new numbers, whatever is read
meanwhile. -/
theorem admitted_of_requeued {state : source} {answer : handler} {multicast rpc : Address}
    {queue : Member source → List Event} (numbered : hub.Numbered)
    (distinct : (hub.members.map Member.address).Nodup) (connected : hub.isolated = [])
    (join : hub.join? state = some (multicast, joined))
    (joinRpc : (joined.withQueues queue).joinRpc? multicast answer = some (rpc, serving))
    (announce : serving.announce multicast rpc = .ok after) :
    hub.Free multicast rpc ∧ (hub.admitted state answer multicast rpc).Numbered ∧
      ∃ later, after = (hub.admitted state answer multicast rpc).withQueues later := by
  obtain ⟨bound, isRpc, isServing⟩ := joinRpc?_eq_some joinRpc
  have room : joined.lastId.toNat + 1 < UInt64.size := bound
  obtain ⟨own, alone, joinRpc'⟩ := exists_joinRpc room multicast answer
  have isOwn : own = rpc := (joinRpc?_eq_some joinRpc').2.1.trans isRpc.symm
  rw [isOwn] at joinRpc'
  obtain ⟨free, numbered'⟩ := numbered.free join joinRpc'
  obtain ⟨-, -, isJoined⟩ := join?_eq_some join
  have reachable : serving.isolated = [] := by
    rw [isServing, isJoined]
    exact connected
  refine ⟨free, numbered', exists_withQueues ?_ ?_⟩
  · rw [admitted, List.map_append]
    refine distinct.append (by simp) ?_
    simpa [newcomer] using fun member listed => free.members member listed
  · have members : serving.emptied.members =
        (hub.admitted state answer multicast rpc).emptied.members := by
      rw [isServing, isJoined]
      simp only [emptied, withQueues, publish_eq, modifyMember, admitted, List.map_append,
        List.map_map]
      congr 1
      · refine List.map_congr_left fun member listed => ?_
        simp [free.members member listed]
      · simp [newcomer]
    rw [announce_eq reachable announce, emptied_withQueues]
    rw [isServing, isJoined] at members ⊢
    exact congrArg
      (fun listed => { hub.admitted state answer multicast rpc with members := listed }) members

end Hub

namespace Cluster

variable {cluster after : Cluster} {multicast : Address}

/-- A node that has joined stays the last one as long as nobody else comes. -/
theorem Steady.exists_enlarged {hub : Hub StateSource Answerer} {newcomer held : Node}
    (steady : (cluster.enlarged hub newcomer).Steady after)
    (distinct : (after.nodes.map Node.address).Nodup) (present : held ∈ after.nodes)
    (named : held.address = newcomer.address) {limit : UInt32}
    (limited : ∀ node ∈ (cluster.enlarged hub newcomer).nodes, node.replica.probeLimit = limit) :
    ∃ others queue, cluster.Steady others ∧ others.hub = cluster.hub ∧
      after = others.enlarged (hub.withQueues queue) held := by
  obtain ⟨replica, nodes⟩ := steady.nodes
  obtain ⟨queue, isHub⟩ := steady.hub
  have isLast : after.nodes = (cluster.nodes.map fun node =>
      { node with replica := replica node }) ++ [held] := by
    have split : after.nodes = (cluster.nodes.map fun node =>
        { node with replica := replica node }) ++
          [{ newcomer with replica := replica newcomer }] := by
      rw [nodes, Cluster.enlarged, List.map_append]
      rfl
    have last : { newcomer with replica := replica newcomer } ∈ after.nodes := by simp [split]
    rw [List.inj_on_of_nodup_map distinct present last named]
    exact split
  refine ⟨{ after with
      hub := cluster.hub
      nodes := cluster.nodes.map fun node => { node with replica := replica node } }, queue,
    ⟨steady.configured, ⟨_, (Hub.withQueues_self fun _ _ => rfl).symm⟩, ⟨replica, rfl⟩, ?_,
      steady.coordinators⟩, rfl, ?_⟩
  · intro other others node listed
    obtain ⟨old, isOld, -⟩ := List.mem_map.mp listed
    have same : limit = other := by
      rw [← limited old (List.mem_append_left _ isOld), others old isOld]
    rw [← same]
    exact steady.limited limit limited node (isLast ▸ List.mem_append_left _ listed)
  · change after = { after with
      hub := (cluster.enlarged hub newcomer).hub.withQueues queue, nodes := _ ++ _ }
    rw [← isLast, ← isHub]

/-- A node that serves has joined the RPC group and announced itself. -/
theorem beginServing_eq_ok {rpc : Address}
    (serves : cluster.beginServing multicast = (.ok rpc, after)) :
    ∃ serving announced, cluster.hub.joinRpc? multicast (.node multicast) = some (rpc, serving) ∧
      serving.announce multicast rpc = .ok announced ∧
        after = (cluster.withHub announced).modifyNode multicast fun node =>
          { node with phase := .serving } := by
  rw [beginServing] at serves
  cases joinRpc : cluster.hub.joinRpc? multicast (.node multicast) with
  | none => simp [joinRpc] at serves
  | some pair =>
      obtain ⟨own, serving⟩ := pair
      cases announce : serving.announce multicast own with
      | error fault => simp [joinRpc, announce] at serves
      | ok announced =>
          simp only [joinRpc, announce, Prod.mk.injEq, Except.ok.injEq] at serves
          obtain ⟨rfl, rfl⟩ := serves
          exact ⟨serving, announced, rfl, announce, rfl⟩

theorem running_joining (cluster : Cluster) (hub : Hub StateSource Answerer) (node : Node)
    (outside : node.phase ≠ .serving) : (cluster.enlarged hub node).running = cluster.running := by
  simp [running, enlarged, List.filter_append, outside]

/-- Nobody has the address that a newcomer gets. -/
theorem Placed.ne_of_join {me : Address} {joined : Hub StateSource Answerer}
    (placed : cluster.Placed me) (join : cluster.hub.join? .node = some (multicast, joined))
    (steady : cluster.Steady after) : ∀ node ∈ after.nodes, node.address ≠ multicast := by
  intro node listed
  have named := List.mem_map_of_mem (f := Node.address) listed
  rw [steady.addresses] at named
  obtain ⟨old, isOld, isNamed⟩ := List.mem_map.mp named
  exact isNamed ▸ placed.numbered.ne_of_join join (placed.joined old isOld)

/-- Who is told to copy nothing has no commands waiting. -/
theorem uncommanded_of_peersOf {address : Address}
    (distinct : (cluster.hub.members.map Member.address).Nodup)
    (untold : cluster.peersOf address = []) : cluster.hub.Uncommanded address := by
  intro member listed named
  rw [peersOf, Hub.queueOf, ← named, Hub.member?_eq_some distinct listed] at untold
  exact untold

end Cluster

namespace Scene

open Cluster

/-- A node starts while others listen.  It joins the multicast group, tries to get a state until it
has one, joins the RPC group and announces itself.  Vain attempts to get a state are left out: they
change nothing. -/
inductive Starts (scene : Scene) : Scene → Prop
  | intro {multicast rpc : Address} {joined ready serving : Cluster} {asking waiting : Scene}
      (joins : scene.cluster.joinNode? = some (multicast, joined))
      (listens : Meanwhile ⟨joined, scene.fetched⟩ asking)
      (gets : asking.cluster.attempt multicast = .ready ready)
      (meanwhile : Meanwhile ⟨ready, asking.fetched⟩ waiting)
      (serves : waiting.cluster.beginServing multicast = (.ok rpc, serving)) :
      Starts scene ⟨serving, waiting.fetched⟩

/-- A node can start while nobody listens until it serves. -/
theorem Starts.of_startNode {cluster after : Cluster} {addresses : Address × Address}
    (start : cluster.startNode = (.ok addresses, after)) :
    ∃ serving, (still cluster).Starts (still serving) ∧ after = serving.settle := by
  rw [startNode, startNodeAmid] at start
  cases joins : cluster.joinNode? with
  | none => simp [joins] at start
  | some pair =>
      obtain ⟨multicast, joined⟩ := pair
      simp only [joins, initialise] at start
      cases gets : joined.attempt multicast with
      | blocked fault waiting => simp [gets] at start
      | failed fault waiting => simp [gets] at start
      | ready ready =>
          simp only [gets] at start
          obtain ⟨given, isAfter⟩ := Prod.mk.inj start
          cases result : (ready.beginServing multicast).1 with
          | error fault => simp [result, Except.map] at given
          | ok rpc => exact ⟨_, .intro joins .refl gets .refl (Prod.ext result rfl), isAfter.symm⟩

variable {me : Address} {scene after : Scene} {replica : Replica}

/-! ## Joining -/

section Joining

variable {multicast : Address} {joined : Hub StateSource Answerer}
  (placed : scene.cluster.Placed me)
  (join : scene.cluster.hub.join? .node = some (multicast, joined))
include placed join

/-- A newcomer has nothing to do with what the others have agreed on. -/
theorem Agreed.joins (agreed : scene.Agreed replica [])
    (acquainted : scene.cluster.Acquainted
      (· ∈ scene.cluster.hub.members.map Member.address)) :
    Agreed ⟨scene.cluster.enlarged joined (scene.cluster.joining multicast), scene.fetched⟩ replica
      [scene.cluster.joining multicast] := by
  have fresh {address : Address}
      (used : address ∈ scene.cluster.hub.members.map Member.address) : address ≠ multicast :=
    placed.numbered.ne_of_join join used
  have runs := scene.cluster.running_joining joined (scene.cluster.joining multicast)
    (by simp [joining])
  have introduced : (scene.cluster.enlarged joined (scene.cluster.joining multicast)).Acquainted
      (· ∈ scene.cluster.hub.members.map Member.address) :=
    ⟨acquainted.heard.of_join join, acquainted.noted⟩
  constructor
  case nodes =>
    rw [Cluster.enlarged, List.map_append]
    refine agreed.nodes.append (by simp) ?_
    simpa [joining] using fun node listed => fresh (placed.joined node listed)
  case unanimous =>
    intro node isRunning
    exact agreed.unanimous node (runs ▸ isRunning)
  case storable => exact agreed.storable
  case handed =>
    rw [runs]
    obtain ⟨-, -, isJoined⟩ := Hub.join?_eq_some join
    intro member listed subscribed state gives
    change member ∈ joined.members at listed
    rw [isJoined, Hub.publish_eq] at listed
    obtain ⟨old, isMember, rfl⟩ := List.mem_map.mp listed
    rcases List.mem_append.mp isMember with before | new
    · obtain ⟨isNode, serves⟩ := agreed.handed old before subscribed state gives
      exact ⟨isNode, .inl (serves.resolve_right (by simp))⟩
    · obtain rfl := List.mem_singleton.mp new
      obtain rfl := Option.some.inj gives
      exact ⟨rfl, .inr (by simp [Hub.newcomer, joining])⟩
  case told =>
    intro address _ peer told
    simpa [joining] using fresh (introduced.of_mem_peersOf told)
  case fetched =>
    rw [runs]
    intro address snapshot isHeld
    obtain ⟨listed, same⟩ := agreed.fetched address snapshot isHeld
    refine ⟨?_, same⟩
    rw [Cluster.enlarged, List.map_append]
    exact List.mem_append_left _ listed
  case waiting =>
    intro newcomer isNew
    obtain rfl := List.mem_singleton.mp isNew
    refine ⟨List.mem_append_right _ isNew, by simp [joining], ?_, peersOf_eq_nil ?_⟩
    · refine Option.eq_none_iff_forall_ne_some.mpr fun snapshot isHeld => ?_
      obtain ⟨node, listed, named⟩ := List.mem_map.mp (agreed.fetched multicast snapshot isHeld).1
      exact fresh (placed.joined node listed) named
    · refine Hub.Uncommanded.of_join (fun member listed named => ?_) join
      exact absurd named (fresh (List.mem_map_of_mem listed))

/-- Nobody copies anything because of a newcomer. -/
theorem Calm.joins (calm : scene.Calm) :
    Calm ⟨scene.cluster.enlarged joined (scene.cluster.joining multicast), scene.fetched⟩ where
  fetched := calm.fetched
  untold := by
    rw [running_joining _ _ _ (by simp [joining])]
    intro address isRunning
    exact peersOf_eq_nil
      ((uncommanded_of_peersOf placed.members (calm.untold address isRunning)).of_join join)

end Joining

/-! ## Getting a state -/

section Furnishing

variable {cluster : Cluster} {hub : Hub StateSource Answerer} {fetched : Address → Option Snapshot}
  {held : Node} (agreed : Agreed ⟨cluster.enlarged hub held, fetched⟩ replica [held])
include agreed

/-- What a newcomer holds before it serves is its own concern. -/
theorem Agreed.furnish {given : Node} (named : given.address = held.address)
    (outside : given.phase ≠ .serving) :
    Agreed ⟨cluster.enlarged hub given, fetched⟩ replica [given] := by
  obtain ⟨-, isOutside, unfetched, untold⟩ := agreed.waiting held List.mem_cons_self
  have runs : (cluster.enlarged hub given).running = (cluster.enlarged hub held).running := by
    rw [running_joining _ _ _ outside, running_joining _ _ _ isOutside]
  have addresses : (cluster.enlarged hub given).nodes.map Node.address =
      (cluster.enlarged hub held).nodes.map Node.address := by
    simp [Cluster.enlarged, named]
  have newcomers : [given].map Node.address = [held].map Node.address := by simp [named]
  constructor
  case nodes => exact addresses ▸ agreed.nodes
  case unanimous => exact fun node isRunning => agreed.unanimous node (runs ▸ isRunning)
  case storable => exact agreed.storable
  case handed =>
    rw [runs, newcomers]
    exact agreed.handed
  case told =>
    rw [runs, newcomers]
    exact agreed.told
  case fetched =>
    rw [runs, addresses]
    exact agreed.fetched
  case waiting =>
    intro newcomer isNew
    obtain rfl := List.mem_singleton.mp isNew
    exact ⟨List.mem_append_right _ isNew, outside, named ▸ unfetched, named ▸ untold⟩

/-- Once it holds what the others hold it may serve like them. -/
theorem Agreed.serves (holds : held.replica = replica) (connected : hub.isolated = [])
    {answer : Answerer} {rpc : Address} {joined announced : Hub StateSource Answerer}
    (joinRpc : hub.joinRpc? held.address answer = some (rpc, joined))
    (announce : joined.announce held.address rpc = .ok announced) :
    Agreed ⟨cluster.enlarged announced { held with phase := .serving }, fetched⟩ replica [] := by
  obtain ⟨-, isOutside, unfetched, untold⟩ := agreed.waiting held List.mem_cons_self
  have runs : (cluster.enlarged announced { held with phase := .serving }).running = _ :=
    cluster.running_enlarged announced rfl
  have ran := cluster.running_joining hub held isOutside
  have addresses : (cluster.enlarged announced { held with phase := .serving }).nodes.map
      Node.address = (cluster.enlarged hub held).nodes.map Node.address := by
    simp [Cluster.enlarged]
  constructor
  case nodes => exact addresses ▸ agreed.nodes
  case unanimous =>
    intro node isRunning
    rw [runs] at isRunning
    rcases List.mem_append.mp isRunning with before | new
    · exact agreed.unanimous node (ran ▸ before)
    · exact List.mem_singleton.mp new ▸ holds
  case storable => exact agreed.storable
  case handed =>
    obtain ⟨-, -, isJoined⟩ := Hub.joinRpc?_eq_some joinRpc
    have reachable : joined.isolated = [] := by
      rw [isJoined]
      exact connected
    intro member listed subscribed state gives
    change member ∈ announced.members at listed
    rw [Hub.announce_eq reachable announce, isJoined, Hub.publish_eq] at listed
    obtain ⟨answering, isAnswering, rfl⟩ := List.mem_map.mp listed
    obtain ⟨heard, isHeard, rfl⟩ := List.mem_map.mp isAnswering
    obtain ⟨old, isMember, rfl⟩ := List.mem_map.mp isHeard
    simp only [apply_ite Member.isSubscribed, apply_ite Member.source, apply_ite Member.address,
      ite_self] at subscribed gives ⊢
    obtain ⟨isNode, serves⟩ := agreed.handed old isMember subscribed state gives
    refine ⟨isNode, .inl ?_⟩
    rw [runs, ← ran, List.map_append, List.map_singleton]
    exact List.mem_append.mpr serves
  case told => simp
  case fetched =>
    intro address snapshot isHeld
    obtain ⟨listed, same⟩ := agreed.fetched address snapshot isHeld
    refine ⟨addresses ▸ listed, fun isRunning => ?_⟩
    rw [runs, List.map_append] at isRunning
    rcases List.mem_append.mp isRunning with before | new
    · exact same (ran ▸ before)
    · obtain rfl := List.mem_singleton.mp new
      rw [unfetched] at isHeld
      contradiction
  case waiting => simp

/-- Nobody copies anything because of it. -/
theorem Calm.serves (calm : Calm ⟨cluster.enlarged hub held, fetched⟩)
    (distinct : (hub.members.map Member.address).Nodup) {answer : Answerer} {rpc : Address}
    {joined announced : Hub StateSource Answerer}
    (joinRpc : hub.joinRpc? held.address answer = some (rpc, joined))
    (announce : joined.announce held.address rpc = .ok announced) :
    Calm ⟨cluster.enlarged announced { held with phase := .serving }, fetched⟩ where
  fetched := calm.fetched
  untold := by
    obtain ⟨-, isOutside, -, untold⟩ := agreed.waiting held List.mem_cons_self
    have quiet {address : Address} (before : (cluster.enlarged hub held).peersOf address = []) :
        (cluster.enlarged announced { held with phase := .serving }).peersOf address = [] := by
      have uncommanded : hub.Uncommanded address := uncommanded_of_peersOf distinct before
      obtain ⟨found, same, harmless⟩ := joined.exists_announce held.address rpc
      obtain rfl := Except.ok.inj (same.symm.trans announce)
      exact peersOf_eq_nil (harmless address (uncommanded.of_joinRpc joinRpc))
    intro address isRunning
    rw [cluster.running_enlarged announced rfl, List.map_append] at isRunning
    rcases List.mem_append.mp isRunning with before | new
    · refine quiet (calm.untold address ?_)
      rwa [cluster.running_joining hub held isOutside]
    · obtain rfl := List.mem_singleton.mp new
      exact quiet untold

end Furnishing

/-- If nobody serves it is all the same what the replica is that all of them hold. -/
theorem Agreed.of_deserted {other : Replica} (agreed : scene.Agreed replica [])
    (deserted : scene.cluster.running = []) (storable : other.snapshot.Storable) :
    scene.Agreed other [] where
  nodes := agreed.nodes
  unanimous := by simp [Unanimous, deserted]
  storable := storable
  handed := agreed.handed
  told := agreed.told
  fetched := by
    intro address snapshot isHeld
    exact ⟨(agreed.fetched address snapshot isHeld).1, by simp [deserted]⟩
  waiting := agreed.waiting

theorem Agreed.heir (agreed : scene.Agreed replica [])
    (texts : (Replica.first scene.cluster.settings scene.cluster.seed).snapshot.Storable) :
    scene.Agreed scene.cluster.heir [] := by
  rw [Cluster.heir]
  cases runs : scene.cluster.running with
  | nil => exact agreed.of_deserted runs texts
  | cons node rest =>
      have same : node.replica = replica := agreed.unanimous node (by simp [runs])
      rw [List.head?_cons, Option.map_some, Option.getD_some, same]
      exact agreed

/-- What a newcomer gets is what the others hold; if there are none it begins anew. -/
theorem Agreed.gets {cluster ready : Cluster} {hub : Hub StateSource Answerer}
    {fetched : Address → Option Snapshot} {multicast : Address}
    (agreed : Agreed ⟨cluster.enlarged hub (cluster.joining multicast), fetched⟩ replica
      [cluster.joining multicast])
    (arranged : cluster.Arranged) (fresh : ∀ node ∈ cluster.nodes, node.address ≠ multicast)
    (oldest : hub.multicastView.oldestOther? multicast = cluster.running.head?.map Node.address)
    (anew : cluster.running = [] → replica = .first cluster.settings cluster.seed)
    (gets : (cluster.enlarged hub (cluster.joining multicast)).attempt multicast = .ready ready) :
    ready = cluster.enlarged hub ⟨multicast, replica, .joining⟩ := by
  obtain ⟨given, rfl, begins, taken⟩ := attempt_eq_ready fresh gets
  suffices isGiven : given = replica by rw [isGiven]
  cases runs : cluster.running with
  | nil =>
      rw [runs] at oldest
      exact (begins oldest).trans (anew runs).symm
  | cons node rest =>
      rw [runs] at oldest
      have isRunning : node ∈ cluster.running := by simp [runs]
      have listed := (mem_running_iff.mp isRunning).1
      have serves : node ∈ (cluster.enlarged hub (cluster.joining multicast)).running := by
        rwa [running_joining _ _ _ (by simp [joining])]
      obtain ⟨snapshot, fetches, rfl⟩ := taken node.address oldest
      rw [agreed.of_fetch (by simpa [joining] using fresh node listed) fetches]
      refine Replica.eq_of_snapshot rfl ?_
      rw [← agreed.unanimous node serves]
      exact (arranged.configured node listed).symm

/-! ## The whole of it -/

/-- A scene in which one node more has joined and does not serve yet. -/
structure Awaits (begun : Scene) (joined : Hub StateSource Answerer) (replica : Replica)
    (newcomer : Node) (scene : Scene) : Prop where
  /-- It comes after all others, which are where they were in the beginning. -/
  place : ∃ others queue, begun.cluster.Steady others ∧ others.hub = begun.cluster.hub ∧
    scene.cluster = others.enlarged (joined.withQueues queue) newcomer
  limited : newcomer.replica.probeLimit = begun.cluster.settings.probeLimit
  agreed : scene.Agreed replica [newcomer]
  acquainted : scene.cluster.Acquainted (· ∈ begun.cluster.hub.members.map Member.address)
  calm : begun.Calm → scene.Calm

section Awaiting

variable {begun : Scene} {joined : Hub StateSource Answerer} {newcomer : Node}
  {multicast : Address} (placed : begun.cluster.Placed me)
include placed

/-- A node that has joined is awaited. -/
theorem Agreed.awaits (agreed : begun.Agreed replica [])
    (acquainted : begun.cluster.Acquainted (· ∈ begun.cluster.hub.members.map Member.address))
    (join : begun.cluster.hub.join? .node = some (multicast, joined)) :
    begun.Awaits joined replica (begun.cluster.joining multicast)
      ⟨begun.cluster.enlarged joined (begun.cluster.joining multicast), begun.fetched⟩ where
  place := by
    refine ⟨begun.cluster, Member.queue, .refl _, rfl, ?_⟩
    rw [Hub.withQueues_self fun _ _ => rfl]
  limited := rfl
  agreed := agreed.joins placed join acquainted
  acquainted := ⟨acquainted.heard.of_join join, acquainted.noted⟩
  calm := Calm.joins placed join

/-- It is still awaited after what listeners do meanwhile. -/
theorem Awaits.meanwhile (awaits : begun.Awaits joined replica newcomer scene)
    (meanwhile : scene.Meanwhile after) : begun.Awaits joined replica newcomer after := by
  have agreed := awaits.agreed.meanwhile meanwhile
  refine ⟨?_, awaits.limited, agreed, meanwhile.acquainted awaits.acquainted,
    fun calm => ((awaits.calm calm).meanwhile meanwhile).1⟩
  obtain ⟨others, queue, steady, hub, isCluster⟩ := awaits.place
  have limited : ∀ node ∈ (others.enlarged (joined.withQueues queue) newcomer).nodes,
      node.replica.probeLimit = begun.cluster.settings.probeLimit := by
    intro node listed
    rcases List.mem_append.mp listed with before | new
    · exact steady.limited _ placed.configured node before
    · exact List.mem_singleton.mp new ▸ awaits.limited
  have stays := meanwhile.steady
  rw [isCluster] at stays
  obtain ⟨others', queue', steady', hub', isCluster'⟩ := stays.exists_enlarged agreed.nodes
    (agreed.waiting newcomer List.mem_cons_self).1 rfl limited
  rw [Hub.withQueues_withQueues] at isCluster'
  exact ⟨others', _, steady.trans steady', hub'.trans hub, isCluster'⟩

/-- When it has got a state it holds what the others hold. -/
theorem Awaits.gets (awaits : begun.Awaits joined replica (begun.cluster.joining multicast) scene)
    (join : begun.cluster.hub.join? .node = some (multicast, joined))
    (anew : begun.cluster.running = [] →
      replica = .first begun.cluster.settings begun.cluster.seed) {ready : Cluster}
    (gets : scene.cluster.attempt multicast = .ready ready) :
    begun.Awaits joined replica ⟨multicast, replica, .joining⟩ ⟨ready, scene.fetched⟩ := by
  obtain ⟨cluster, fetched⟩ := scene
  obtain ⟨others, queue, steady, hub, isCluster⟩ := awaits.place
  obtain rfl : cluster = _ := isCluster
  obtain ⟨settings, seed⟩ : others.settings = begun.cluster.settings ∧
      others.seed = begun.cluster.seed :=
    ⟨congrArg Prod.fst steady.configured, congrArg (fun told => told.2.1) steady.configured⟩
  have same : begun.cluster.joining multicast = others.joining multicast := by
    rw [joining, joining, settings]
  have agreed := awaits.agreed
  have calm := awaits.calm
  rw [same] at agreed gets calm
  have arranged := placed.toArranged.steady steady
  have fresh := placed.ne_of_join join steady
  have oldest : (joined.withQueues queue).multicastView.oldestOther? multicast =
      others.running.head?.map Node.address := by
    rw [← List.head?_map, steady.runningAddresses, List.head?_map]
    exact (placed.oldestOther?_of_join join (placed.ne_of_join join (.refl _)) :)
  have deserted : others.running = [] → replica = .first others.settings others.seed := by
    intro nobody
    have addresses := steady.runningAddresses
    rw [nobody] at addresses
    rw [settings, seed]
    exact anew (List.map_eq_nil_iff.mp addresses.symm)
  obtain rfl := agreed.gets arranged fresh oldest deserted gets
  have outside : (others.joining multicast).phase ≠ .serving := by simp [joining]
  refine ⟨⟨others, queue, steady, hub, rfl⟩, ?_, agreed.furnish rfl (by simp),
    ⟨awaits.acquainted.heard, awaits.acquainted.noted⟩, fun isCalm => ⟨(calm isCalm).fetched, ?_⟩⟩
  · rw [← settings]
    cases runs : others.running with
    | nil => rw [deserted runs, Replica.probeLimit_first]
    | cons node rest =>
        have isRunning : node ∈ others.running := by simp [runs]
        rw [← agreed.unanimous node (by rwa [running_joining _ _ _ outside])]
        exact arranged.configured node (mem_running_iff.mp isRunning).1
  · rw [running_joining _ _ _ (by simp)]
    have untold := (calm isCalm).untold
    rwa [running_joining _ _ _ outside] at untold

/-- Once it has announced itself it is one of those who serve. -/
theorem Awaits.serves (awaits : begun.Awaits joined replica newcomer scene)
    (join : begun.cluster.hub.join? .node = some (newcomer.address, joined))
    (holds : newcomer.replica = replica) {rpc : Address} {serving : Cluster}
    (serves : scene.cluster.beginServing newcomer.address = (.ok rpc, serving)) :
    serving.Placed me ∧ Agreed ⟨serving, scene.fetched⟩ replica [] ∧
      serving.Acquainted (· ∈ serving.hub.members.map Member.address) ∧
      (begun.Calm → Calm ⟨serving, scene.fetched⟩) ∧
      serving.configuration = begun.cluster.configuration ∧
      serving.running.length = begun.cluster.running.length + 1 := by
  obtain ⟨cluster, fetched⟩ := scene
  obtain ⟨others, queue, steady, hub, isCluster⟩ := awaits.place
  obtain rfl : cluster = _ := isCluster
  obtain ⟨entered, announced, joinRpc, announce, isServing⟩ := beginServing_eq_ok serves
  have fresh := placed.ne_of_join join steady
  obtain rfl : serving = others.enlarged announced { newcomer with phase := .serving } :=
    isServing.trans (modifyNode_enlarged fresh announced _)
  obtain ⟨free, numbered, later, isAnnounced⟩ := Hub.admitted_of_requeued placed.numbered
    placed.members placed.whole join joinRpc announce
  have connected : (joined.withQueues queue).isolated = [] := by
    obtain ⟨-, -, rfl⟩ := Hub.join?_eq_some join
    exact placed.whole
  have distinct : ((joined.withQueues queue).members.map Member.address).Nodup := by
    rw [Hub.addresses_withQueues, Hub.addresses_of_join join]
    refine placed.members.append (by simp) ?_
    simpa using fun member listed => free.members member listed
  have agreed : Agreed ⟨others.enlarged announced { newcomer with phase := .serving }, fetched⟩
      replica [] :=
    awaits.agreed.serves holds connected joinRpc announce
  have addresses : announced.members.map Member.address =
      begun.cluster.hub.members.map Member.address ++ [newcomer.address] := by
    rw [isAnnounced, Hub.addresses_withQueues, Hub.admitted, List.map_append]
    rfl
  have introduced := awaits.acquainted.mono fun address isKnown =>
    show address ∈ announced.members.map Member.address from
      addresses ▸ List.mem_append_left _ isKnown
  refine ⟨?_, agreed, ⟨(introduced.heard.of_joinRpc joinRpc).of_announce ?_ announce,
    introduced.noted⟩, fun isCalm => ?_, steady.configured, ?_⟩
  · rw [isAnnounced, ← hub]
    refine (placed.steady steady).enlarged (hub.symm ▸ free) (hub.symm ▸ numbered) ?_ later
    exact awaits.limited.trans (congrArg (fun told => told.1.probeLimit) steady.configured).symm
  · rw [addresses]
    simp
  · exact (awaits.calm isCalm).serves awaits.agreed distinct joinRpc announce
  · rw [running_enlarged _ _ rfl, List.length_append]
    have counted := congrArg List.length steady.runningAddresses
    rw [List.length_map, List.length_map] at counted
    rw [counted]
    rfl

end Awaiting

/-- A node that starts while others listen finds its place, and it holds what they hold.  If it is
the only one that serves it begins anew.  Nobody copies anything because of it. -/
theorem Starts.follows (starts : scene.Starts after) (placed : scene.cluster.Placed me)
    (agreed : scene.Agreed replica [])
    (acquainted : scene.cluster.Acquainted
      (· ∈ scene.cluster.hub.members.map Member.address))
    (texts : (Replica.first scene.cluster.settings scene.cluster.seed).snapshot.Storable) :
    after.cluster.Placed me ∧ after.Agreed scene.cluster.heir [] ∧
      after.cluster.Acquainted (· ∈ after.cluster.hub.members.map Member.address) ∧
      (scene.Calm → after.Calm) ∧
      after.cluster.configuration = scene.cluster.configuration ∧
      after.cluster.running.length = scene.cluster.running.length + 1 := by
  obtain @⟨multicast, rpc, joined, ready, serving, asking, waiting, joins, listens, gets, meanwhile,
    serves⟩ := starts
  obtain ⟨⟨address, hub⟩, join, pair⟩ := Option.map_eq_some_iff.mp joins
  obtain ⟨rfl, rfl⟩ := Prod.mk.inj pair
  have anew : scene.cluster.running = [] →
      scene.cluster.heir = .first scene.cluster.settings scene.cluster.seed := by
    intro deserted
    rw [heir, deserted]
    rfl
  have asks := ((agreed.heir texts).awaits placed acquainted join).meanwhile placed listens
  have waits := (asks.gets placed join anew gets).meanwhile placed meanwhile
  exact waits.serves placed join rfl serves

end Scene

end AuctionHouse
