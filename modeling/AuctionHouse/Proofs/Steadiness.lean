import AuctionHouse.Proofs.Scene
import AuctionHouse.Proofs.Undisturbed

/-!
# What stays while others listen

Listeners change queues, address books and the replicas of their nodes.  Answers change replicas,
and commands change queues.  Nobody comes or goes by any of it: who is asked, who hands over what
and who is cut off is the same all through an operation and as long as nothing but listeners does
anything.
-/

namespace AuctionHouse

namespace Cluster

/-- The same processes in the same places: queues, notices and address books may have changed, and
what the replicas hold. -/
structure Steady (cluster after : Cluster) : Prop where
  configured : after.configuration = cluster.configuration
  hub : ∃ queue, after.hub = cluster.hub.withQueues queue
  nodes : ∃ replica : Node → Replica,
    after.nodes = cluster.nodes.map fun node => { node with replica := replica node }
  limited : ∀ limit, (∀ node ∈ cluster.nodes, node.replica.probeLimit = limit) →
    ∀ node ∈ after.nodes, node.replica.probeLimit = limit
  coordinators : after.coordinators.map Coordinator.address =
    cluster.coordinators.map Coordinator.address

variable {cluster after done : Cluster} {me : Address}

theorem Steady.trans (first : cluster.Steady after) (second : after.Steady done) :
    cluster.Steady done where
  configured := second.configured.trans first.configured
  hub := by
    obtain ⟨queue, hub⟩ := first.hub
    obtain ⟨later, hub'⟩ := second.hub
    exact ⟨_, by rw [hub', hub, Hub.withQueues_withQueues]⟩
  nodes := by
    obtain ⟨replica, nodes⟩ := first.nodes
    obtain ⟨later, nodes'⟩ := second.nodes
    refine ⟨fun node => later { node with replica := replica node }, ?_⟩
    rw [nodes', nodes, List.map_map]
    rfl
  limited := fun limit limited => second.limited limit (first.limited limit limited)
  coordinators := second.coordinators.trans first.coordinators

/-- Queues and notices do not matter. -/
theorem Steady.of_nodes (configured : after.configuration = cluster.configuration)
    (hub : ∃ queue, after.hub = cluster.hub.withQueues queue) (nodes : after.nodes = cluster.nodes)
    (coordinators : after.coordinators.map Coordinator.address =
      cluster.coordinators.map Coordinator.address) : cluster.Steady after where
  configured := configured
  hub := hub
  nodes := ⟨Node.replica, by rw [nodes]; simp⟩
  limited := by
    rw [nodes]
    exact fun _ => id
  coordinators := coordinators

theorem Steady.refl (cluster : Cluster) : cluster.Steady cluster :=
  .of_nodes rfl ⟨Member.queue, (Hub.withQueues_self fun _ _ => rfl).symm⟩ rfl rfl

/-- Neither do the replicas, as long as they keep their limits. -/
theorem steady_revise {replica : Node → Replica}
    (limited : ∀ limit, (∀ node ∈ cluster.nodes, node.replica.probeLimit = limit) →
      ∀ node ∈ cluster.nodes, (replica node).probeLimit = limit) (more : List Notice) :
    cluster.Steady (cluster.revise replica more) where
  configured := rfl
  hub := ⟨Member.queue, (Hub.withQueues_self fun _ _ => rfl).symm⟩
  nodes := ⟨replica, rfl⟩
  limited := by
    intro limit limits node listed
    obtain ⟨old, isNode, rfl⟩ := List.mem_map.mp listed
    exact limited limit limits old isNode
  coordinators := rfl

/-! ## What is the same -/

theorem Steady.addresses (steady : cluster.Steady after) :
    after.nodes.map Node.address = cluster.nodes.map Node.address := by
  obtain ⟨replica, nodes⟩ := steady.nodes
  rw [nodes, List.map_map]
  rfl

theorem Steady.accounts (steady : cluster.Steady after) : after.accounts = cluster.accounts :=
  congrArg (fun told => told.2.2) steady.configured

/-- A steady cluster is one with other replicas and queues, as far as requests are concerned. -/
theorem Steady.exists_revise (steady : cluster.Steady after) :
    ∃ replica queue, after.nodes = (cluster.revise replica []).nodes ∧
      after.hub = cluster.hub.withQueues queue := by
  obtain ⟨replica, nodes⟩ := steady.nodes
  obtain ⟨queue, hub⟩ := steady.hub
  exact ⟨replica, queue, nodes, hub⟩

theorem Steady.node?_map (steady : cluster.Steady after) {field : Type} (read : Node → field)
    (apart : ∀ (node : Node) (replica : Replica), read { node with replica } = read node)
    (address : Address) : (after.node? address).map read = (cluster.node? address).map read := by
  obtain ⟨replica, nodes⟩ := steady.nodes
  have found : after.node? address = (cluster.revise replica []).node? address := by
    rw [node?, nodes]
    rfl
  rw [found, node?_revise, Option.map_map]
  exact congrArg (fun change => (cluster.node? address).map change)
    (funext fun node => apart node (replica node))

/-- The same nodes are serving. -/
theorem Steady.runningAddresses (steady : cluster.Steady after) :
    after.running.map Node.address = cluster.running.map Node.address := by
  obtain ⟨replica, nodes⟩ := steady.nodes
  have runs : after.running = (cluster.revise replica []).running := by
    rw [running, nodes]
    rfl
  rw [runs, runningAddresses_revise]

/-- The same members are asked. -/
theorem Steady.audience (steady : cluster.Steady after) :
    after.hub.audience me = cluster.hub.audience me := by
  obtain ⟨queue, hub⟩ := steady.hub
  rw [hub]
  rfl

theorem Steady.isReachable (steady : cluster.Steady after) (address : Address) :
    after.hub.isReachable address = cluster.hub.isReachable address := by
  obtain ⟨queue, hub⟩ := steady.hub
  rw [hub]
  rfl

theorem Steady.rpcView (steady : cluster.Steady after) :
    after.hub.rpcView = cluster.hub.rpcView := by
  obtain ⟨queue, hub⟩ := steady.hub
  rw [hub]
  rfl

theorem Steady.nodeBehind? (steady : cluster.Steady after) (rpc : Address) :
    after.hub.nodeBehind? rpc = cluster.hub.nodeBehind? rpc := by
  obtain ⟨queue, hub⟩ := steady.hub
  rw [hub]
  rfl

/-- The same nodes are reached, whatever they hold by now. -/
theorem Steady.reached (steady : cluster.Steady after) (me : Address) :
    (after.reached me).map (fun entry => (entry.1, entry.2.address)) =
      (cluster.reached me).map fun entry => (entry.1, entry.2.address) := by
  obtain ⟨replica, queue, nodes, hub⟩ := steady.exists_revise
  have same : after.reached me = (cluster.revise replica []).reached me := by
    rw [Cluster.reached, Cluster.reached, hub]
    unfold Cluster.node?
    rw [nodes]
    rfl
  rw [same, reached_revise, List.map_map]
  rfl

theorem Steady.reachedAddresses (steady : cluster.Steady after) (me : Address) :
    after.reachedAddresses me = cluster.reachedAddresses me := by
  have same := congrArg (List.map Prod.snd) (steady.reached me)
  rwa [List.map_map, List.map_map] at same

/-- The members of the RPC group stay the same. -/
theorem Manned.steady (manned : cluster.Manned) (steady : cluster.Steady after) :
    after.Manned := by
  have view := steady.rpcView
  refine ⟨steady.addresses ▸ manned.nodes, view ▸ manned.view, fun rpc listed => ?_,
    fun left isLeft right isRight same => ?_⟩
  · obtain ⟨node, isNode, named⟩ := manned.answered rpc (view ▸ listed)
    have still : node.address ∈ after.nodes.map Node.address :=
      steady.addresses ▸ List.mem_map_of_mem isNode
    obtain ⟨next, isNext, same⟩ := List.mem_map.mp still
    exact ⟨next, isNext, by rw [steady.nodeBehind?, named, same]⟩
  · rw [steady.nodeBehind?, steady.nodeBehind?] at same
    exact manned.singly left (view ▸ isLeft) right (view ▸ isRight) same

/-- Everybody keeps their place. -/
theorem Arranged.steady (arranged : cluster.Arranged) (steady : cluster.Steady after) :
    after.Arranged := by
  have manned := arranged.manned.steady steady
  have settings : after.settings = cluster.settings :=
    congrArg (fun told => told.1) steady.configured
  have running {address : Address} : address ∈ after.running.map Node.address ↔
      address ∈ cluster.running.map Node.address := by
    rw [steady.runningAddresses]
  obtain ⟨queue, hub⟩ := steady.hub
  constructor
  case nodes => exact manned.nodes
  case members =>
    rw [hub, Hub.addresses_withQueues]
    exact arranged.members
  case apart =>
    intro coordinator listed node isRunning
    obtain ⟨old, wasRunning, same⟩ := List.mem_map.mp (running.mp (List.mem_map_of_mem isRunning))
    obtain ⟨before, wasListed, same'⟩ := List.mem_map.mp
      (steady.coordinators ▸ List.mem_map_of_mem (f := Coordinator.address) listed)
    rw [← same, ← same']
    exact arranged.apart before wasListed old wasRunning
  case view => exact manned.view
  case answered =>
    intro rpc listed
    obtain ⟨node, isRunning, behind⟩ := arranged.answered rpc (steady.rpcView ▸ listed)
    obtain ⟨next, nowRunning, same⟩ := List.mem_map.mp (running.mpr (List.mem_map_of_mem isRunning))
    exact ⟨next, nowRunning, by rw [steady.nodeBehind?, behind, same]⟩
  case singly => exact manned.singly
  case enrolled =>
    intro node isRunning
    obtain ⟨old, wasRunning, same⟩ := List.mem_map.mp (running.mp (List.mem_map_of_mem isRunning))
    obtain ⟨member, listed, facts⟩ := same ▸ arranged.enrolled old wasRunning
    rw [hub]
    exact ⟨_, List.mem_map_of_mem listed, facts⟩
  case configured =>
    rw [settings]
    exact steady.limited _ arranged.configured

/-- The coordinator and its nodes keep theirs. -/
theorem Placed.steady (placed : cluster.Placed me) (steady : cluster.Steady after) :
    after.Placed me where
  toArranged := placed.toArranged.steady steady
  whole := by
    obtain ⟨queue, hub⟩ := steady.hub
    rw [hub]
    exact placed.whole
  sole := steady.coordinators.trans placed.sole
  listening := by
    obtain ⟨queue, hub⟩ := steady.hub
    obtain ⟨member, listed, facts⟩ := placed.listening
    rw [hub]
    exact ⟨_, List.mem_map_of_mem listed, facts⟩
  grouped := by
    obtain ⟨queue, hub⟩ := steady.hub
    rw [hub, steady.runningAddresses]
    exact placed.grouped
  joined := by
    obtain ⟨queue, hub⟩ := steady.hub
    intro node listed
    have named := List.mem_map_of_mem (f := Node.address) listed
    rw [steady.addresses] at named
    obtain ⟨old, wasNode, same⟩ := List.mem_map.mp named
    rw [hub, Hub.addresses_withQueues, ← same]
    exact placed.joined old wasNode
  numbered := by
    obtain ⟨queue, hub⟩ := steady.hub
    rw [hub]
    exact placed.numbered.withQueues queue

/-- Nobody is cut off. -/
theorem Connected.steady (connected : cluster.Connected me) (steady : cluster.Steady after) :
    after.Connected me := by
  obtain ⟨coordinator, members, nodes⟩ := connected
  refine ⟨(steady.isReachable me).trans coordinator, fun rpc listed => ?_, fun node listed => ?_⟩
  · rw [steady.isReachable]
    exact members rpc (steady.rpcView ▸ listed)
  · rw [steady.isReachable]
    have named := List.mem_map_of_mem (f := Node.address) listed
    rw [steady.runningAddresses] at named
    obtain ⟨old, wasRunning, same⟩ := List.mem_map.mp named
    exact same ▸ nodes old wasRunning

/-! ## Answers and commands -/

theorem steady_setReplica {address : Address} {replica : Replica}
    (limited : ∀ limit, (∀ node ∈ cluster.nodes, node.replica.probeLimit = limit) →
      replica.probeLimit = limit) : cluster.Steady (cluster.setReplica address replica) := by
  rw [setReplica_eq]
  refine steady_revise (fun limit limits node listed => ?_) []
  split
  · exact limited limit limits
  · exact limits node listed

/-- Working on a request leaves everybody in place. -/
theorem steady_answer (cluster : Cluster) (request : Request) (answerer : Answerer) :
    cluster.Steady (cluster.answer request answerer).2 := by
  cases answerer with
  | guest address rule =>
      exact .of_nodes rfl ⟨Member.queue, (Hub.withQueues_self fun _ _ => rfl).symm⟩ rfl rfl
  | node address =>
      rw [answer]
      split
      · rename_i node found
        refine steady_setReplica fun limit limits => ?_
        rw [Replica.probeLimit_serve]
        exact limits node (mem_nodes_of_node? found).1
      · exact .refl cluster

/-- So does a command. -/
theorem steady_command (cluster : Cluster) (me : Address) (step : Address × Address) :
    cluster.Steady (carryOut me cluster [step]) := by
  obtain ⟨more, carried⟩ := carryOut_cons me cluster step.1 step.2 []
  rw [carried]
  exact .of_nodes rfl ⟨_, rfl⟩ (by simp [carryOut]) rfl

end Cluster

/-! ## Scenes -/

namespace Scene

open Cluster

variable {me : Address} {request : Request} {scene after : Scene}

theorem steady_dequeue (cluster : Cluster) (address : Address) :
    cluster.Steady (cluster.withHub (cluster.hub.dequeue address)) :=
  .of_nodes rfl ⟨_, rfl⟩ rfl rfl

/-- Listeners leave everybody in place. -/
theorem Listens.steady (listens : scene.Listens after) : scene.cluster.Steady after.cluster := by
  cases listens with
  | note listed waiting =>
      refine .of_nodes rfl ⟨_, rfl⟩ rfl ?_
      rw [modifyCoordinator, List.map_map]
      refine List.map_congr_left fun coordinator _ => ?_
      simp only [Function.comp_apply]
      split
      · rfl
      · rfl
  | pass isRunning idle waiting unheard => exact steady_dequeue _ _
  | fetch isRunning idle waiting told handed => exact steady_dequeue _ _
  | miss isRunning idle waiting told refused => exact .of_nodes rfl ⟨_, rfl⟩ rfl rfl
  | restore listed held =>
      dsimp only
      rw [modifyNode_eq]
      refine steady_revise (fun limit limits node isNode => ?_) []
      split
      · rw [Replica.probeLimit_restore]
        exact limits node isNode
      · exact limits node isNode

theorem Meanwhile.steady (meanwhile : scene.Meanwhile after) :
    scene.cluster.Steady after.cluster :=
  meanwhile.keep (fun later => scene.cluster.Steady later.cluster)
    (fun steady listens => steady.trans listens.steady) (.refl _)

theorem Meanwhile.connected {cluster : Cluster} (meanwhile : (still cluster).Meanwhile after)
    (connected : cluster.Connected me) : after.cluster.Connected me :=
  connected.steady meanwhile.steady

theorem FansOut.steady {asked : List (Address × Answerer)} {log : List Service}
    (fansOut : FansOut request scene asked log after) :
    scene.cluster.Steady after.cluster ∧
      ∀ service ∈ log, (service.rpc, service.answerer) ∈ asked ∧
        scene.cluster.Steady service.found.cluster :=
  fansOut.keep (fun later => scene.cluster.Steady later.cluster)
    (fun steady listens => steady.trans listens.steady)
    (fun _ _ steady => steady.trans (steady_answer _ _ _)) (.refl _)

/-- The nodes that a request reaches are asked once each. -/
theorem FansOut.rpcs_perm (manned : scene.cluster.Manned) {log : List Service}
    (fansOut : FansOut request scene (scene.cluster.hub.audience me) log after) :
    (log.map Service.rpc).Perm ((scene.cluster.reached me).map Prod.fst) := by
  have asked := fansOut.log_perm.map Prod.fst
  rwa [manned.audience_eq, List.map_map, List.map_map] at asked

theorem Tells.steady {plan : List (Address × Address)} (tells : Tells me plan scene after) :
    scene.cluster.Steady after.cluster :=
  tells.keep (fun later => scene.cluster.Steady later.cluster)
    (fun steady listens => steady.trans listens.steady)
    (fun _ _ steady => steady.trans (steady_command _ _ _)) (.refl _)

/-- Neither do rounds move anybody. -/
theorem Round.steady {log : List Service} {ballot : Ballot Reply}
    (round : Round me request scene log ballot after) : scene.cluster.Steady after.cluster := by
  cases round with
  | unsent lost => exact .refl _
  | sent carried fansOut arrived counted tells => exact fansOut.steady.1.trans tells.steady

theorem Prepares.steady {operation : Operation} (prepares : Prepares me scene operation after) :
    scene.cluster.Steady after.cluster := by
  cases prepares with
  | verify => exact .refl _
  | check asks round meanwhile => exact round.steady.trans meanwhile.steady

theorem Performs.steady {operation : Operation} {before : Scene} {log : List Service}
    {ballot : Ballot Reply} (performs : Performs me operation scene before log ballot after) :
    scene.cluster.Steady after.cluster := by
  obtain ⟨told, round, meanwhile⟩ := performs.round
  exact performs.prepares.steady.trans (round.steady.trans meanwhile.steady)

theorem steady_polled (operation : Operation) (cluster : Cluster) (me : Address) :
    cluster.Steady (operation.polled cluster me).2 := by
  obtain ⟨log, performs⟩ := Performs.of_polled me operation (still cluster)
  exact performs.steady

end Scene

end AuctionHouse
