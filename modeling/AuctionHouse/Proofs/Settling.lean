import Mathlib.Data.List.Induction
import AuctionHouse.Proofs.Revision

/-!
# Working off what has arrived

When everybody works off their queues, in whatever order, a node ends with what its own queue makes
of its replica.  The order does not matter as long as nobody has to copy the state of a node that
has to copy a state itself: then every state that is fetched is one from before.
-/

namespace AuctionHouse

/-- Whose state an event is a command to copy. -/
def Event.peer? : Event → Option Address
  | .message _ (.command .sync peer) => some peer
  | _ => none

namespace Cluster

/-- A replica after its node was told to copy the state of a peer. -/
def copied (cluster : Cluster) (address : Address) (replica : Replica) (peer : Address) : Replica :=
  match cluster.fetchSnapshot address peer with
  | .ok snapshot => replica.restore snapshot
  | .error _ => replica

/-- Whose states the queue of an address commands to copy. -/
def peersOf (cluster : Cluster) (address : Address) : List Address :=
  (cluster.hub.queueOf address).filterMap Event.peer?

/-- A node's replica when the node has worked off its queue. -/
def afterQueue (cluster : Cluster) (node : Node) : Replica :=
  (cluster.peersOf node.address).foldl (cluster.copied node.address) node.replica

theorem peersOf_eq_nil {cluster : Cluster} {address : Address}
    (quiet : ∀ member ∈ cluster.hub.members, member.address = address →
      member.queue.filterMap Event.peer? = []) : cluster.peersOf address = [] := by
  rw [peersOf, Hub.queueOf]
  cases found : cluster.hub.member? address with
  | none => rfl
  | some member =>
      obtain ⟨listed, named⟩ := Hub.mem_of_member? found
      exact quiet member listed named

@[simp]
theorem probeLimit_copied (cluster : Cluster) (address : Address) (replica : Replica)
    (peer : Address) : (cluster.copied address replica peer).probeLimit = replica.probeLimit := by
  rw [copied]
  split
  · rfl
  · rfl

/-! ## Fetching states -/

/-- What is fetched depends on what the hub hands out and on the replica it is fetched from. -/
theorem fetchSnapshot_congr {cluster other : Cluster} {asking giving : Address}
    (source : other.hub.sourceOf asking giving = cluster.hub.sourceOf asking giving)
    (state : (other.node? giving).map (fun node => node.replica.snapshot) =
      (cluster.node? giving).map fun node => node.replica.snapshot) :
    other.fetchSnapshot asking giving = cluster.fetchSnapshot asking giving := by
  rw [fetchSnapshot, fetchSnapshot, source]
  cases cluster.hub.sourceOf asking giving with
  | error fault => rfl
  | ok handed =>
      cases handed with
      | fixed snapshot => rfl
      | silent => rfl
      | node =>
          cases found : cluster.node? giving with
          | none =>
              rw [found] at state
              rw [Option.map_eq_none_iff.mp state]
          | some node =>
              rw [found] at state
              obtain ⟨present, isPresent, same⟩ := Option.map_eq_some_iff.mp state
              simp only at same
              rw [isPresent]
              simp only [same]

theorem copied_congr {cluster other : Cluster} {address peer : Address}
    (source : other.hub.sourceOf address peer = cluster.hub.sourceOf address peer)
    (state : (other.node? peer).map (fun node => node.replica.snapshot) =
      (cluster.node? peer).map fun node => node.replica.snapshot) (replica : Replica) :
    other.copied address replica peer = cluster.copied address replica peer := by
  rw [copied, copied, fetchSnapshot_congr source state]

/-- A revision that spares a node does not change what is fetched from it. -/
theorem copied_revise {cluster : Cluster} {replica : Node → Replica} {more : List Notice}
    {address peer : Address}
    (spared : ∀ node, cluster.node? peer = some node → replica node = node.replica)
    (before : Replica) :
    (cluster.revise replica more).copied address before peer =
      cluster.copied address before peer := by
  refine copied_congr ?_ ?_ before
  · rfl
  · rw [node?_revise]
    cases found : cluster.node? peer with
    | none => rfl
    | some node => simp [spared node found]

/-! ## One queue -/

theorem obey_of_none {event : Event} (quiet : event.peer? = none) (address : Address)
    (cluster : Cluster) : obey address cluster event = cluster := by
  cases event with
  | multicastView view => rfl
  | rpcView view => rfl
  | message sender body =>
      cases body with
      | command command peer =>
          cases command
          simp [Event.peer?] at quiet
      | announce rpc multicast => rfl

/-- A command changes the replica of the node that obeys it, if that node can fetch the state. -/
theorem obey_of_some {event : Event} {peer : Address} (commands : event.peer? = some peer)
    (address : Address) (cluster : Cluster) :
    ∃ more, obey address cluster event =
      cluster.revise
        (fun node =>
          if node.address = address then cluster.copied address node.replica peer
          else node.replica)
        more := by
  cases event with
  | multicastView view => simp [Event.peer?] at commands
  | rpcView view => simp [Event.peer?] at commands
  | message sender body =>
      cases body with
      | command command other =>
          cases command
          obtain rfl : other = peer := by simpa [Event.peer?] using commands
          change ∃ more, cluster.copyState address other = _
          rw [copyState]
          cases fetched : cluster.fetchSnapshot address other with
          | ok snapshot =>
              refine ⟨[], ?_⟩
              simp only [copied, fetched]
              exact cluster.modifyNode_eq address fun node => node.replica.restore snapshot
          | error fault =>
              refine ⟨[.failed address other fault], ?_⟩
              simp only [copied, fetched, ite_self]
              exact cluster.note_eq _
      | announce rpc multicast => simp [Event.peer?] at commands

/-- Obeying one event after another changes only the replica of the node that obeys. -/
theorem foldl_obey (address : Address) (events : List Event) (cluster : Cluster)
    (others : ∀ peer ∈ events.filterMap Event.peer?, peer ≠ address) :
    ∃ more, (events.filterMap Event.peer? = [] → more = []) ∧
      events.foldl (obey address) cluster =
        cluster.revise
          (fun node =>
            if node.address = address then
              (events.filterMap Event.peer?).foldl (cluster.copied address) node.replica
            else node.replica)
          more := by
  induction events generalizing cluster with
  | nil => exact ⟨[], fun _ => rfl, (revise_self (by simp)).symm⟩
  | cons event rest induction =>
      rw [List.foldl_cons]
      cases commands : event.peer? with
      | none =>
          rw [List.filterMap_cons_none commands] at others ⊢
          rw [obey_of_none commands]
          exact induction cluster others
      | some peer =>
          rw [List.filterMap_cons_some commands] at others ⊢
          obtain ⟨first, obeyed⟩ := obey_of_some commands address cluster
          obtain ⟨more, -, done⟩ := induction (obey address cluster event)
            fun other member => others other (by simp [member])
          refine ⟨first ++ more, by simp, ?_⟩
          rw [done, obeyed, revise_revise]
          refine revise_congr _ fun node _ => ?_
          by_cases same : node.address = address
          · simp only [same, if_true, List.foldl_cons]
            -- the replicas that the later commands ask for have not been touched by the first one
            refine List.foldl_ext _ _ _ fun replica other member => copied_revise ?_ replica
            intro found isFound
            have apart : found.address ≠ address := by
              rw [(mem_nodes_of_node? isFound).2]
              exact others other (by simp [member])
            rw [if_neg apart]
          · simp only [same, if_false]

/-! ## All queues -/

/-- Somebody whose queue is worked off and who is serving has an empty queue afterwards. -/
def emptied (cluster : Cluster) (done : List Address) : Hub StateSource Answerer :=
  cluster.hub.withQueues fun member =>
    if member.address ∈ done ∧ member.address ∈ cluster.running.map Node.address then []
    else member.queue

/-- The cluster after the serving nodes among some addresses have worked off their queues. -/
def worked (cluster : Cluster) (done : List Address) (more : List Notice) : Cluster :=
  (cluster.revise
    (fun node =>
      if node.phase = .serving ∧ node.address ∈ done then cluster.afterQueue node
      else node.replica)
    more).withHub (cluster.emptied done)

/-- Nobody has to copy the state of somebody who has to copy a state. -/
def Untangled (cluster : Cluster) : Prop :=
  ∀ node ∈ cluster.running, ∀ peer ∈ cluster.peersOf node.address, cluster.peersOf peer = []

theorem takeEvents_eq (cluster : Cluster) (address : Address) :
    cluster.takeEvents address = (cluster.hub.queueOf address,
      cluster.withHub (cluster.hub.withQueues fun member =>
        if member.address = address then [] else member.queue)) := by
  rw [takeEvents, Hub.take_eq]
  rfl

theorem worked_congr {cluster : Cluster} {done other : List Address}
    (same : ∀ node ∈ cluster.running, node.address ∈ done ↔ node.address ∈ other)
    (more : List Notice) : cluster.worked done more = cluster.worked other more := by
  have hub : cluster.emptied done = cluster.emptied other := by
    refine Hub.withQueues_congr fun member _ => ?_
    have alike : (member.address ∈ done ∧ member.address ∈ cluster.running.map Node.address) ↔
        (member.address ∈ other ∧ member.address ∈ cluster.running.map Node.address) := by
      refine and_congr_left fun runs => ?_
      obtain ⟨node, isRunning, address⟩ := List.mem_map.mp runs
      exact address ▸ same node isRunning
    simp only [alike]
  rw [worked, worked, hub]
  congr 1
  refine revise_congr more fun node listed => ?_
  have alike : (node.phase = .serving ∧ node.address ∈ done) ↔
      (node.phase = .serving ∧ node.address ∈ other) :=
    and_congr_right fun serving => same node (mem_running_iff.mpr ⟨listed, serving⟩)
  simp only [alike]

/-- Nobody but a serving node works off a queue. -/
theorem work_of_idle {cluster : Cluster} {address : Address}
    (idle : address ∉ cluster.running.map Node.address) : cluster.work address = cluster := by
  rw [work]
  split
  · rename_i phase
    obtain ⟨node, found, serving⟩ := Option.map_eq_some_iff.mp phase
    obtain ⟨listed, named⟩ := mem_nodes_of_node? found
    exact absurd (List.mem_map.mpr ⟨node, mem_running_iff.mpr ⟨listed, serving⟩, named⟩) idle
  · rfl

theorem work_of_running {cluster : Cluster} (distinct : (cluster.nodes.map Node.address).Nodup)
    {address : Address} (runs : address ∈ cluster.running.map Node.address) :
    cluster.work address = (cluster.hub.queueOf address).foldl (obey address)
      (cluster.withHub (cluster.hub.withQueues fun member =>
        if member.address = address then [] else member.queue)) := by
  obtain ⟨node, isRunning, rfl⟩ := List.mem_map.mp runs
  obtain ⟨listed, serving⟩ := mem_running_iff.mp isRunning
  rw [work, node?_eq_some distinct listed]
  simp only [Option.map_some, serving, takeEvents_eq]

/-- Working off a queue once more finds nothing. -/
theorem worked_of_mem {cluster : Cluster} {done : List Address} {address : Address}
    (before : address ∈ done) (more : List Notice) :
    cluster.worked (done ++ [address]) more = cluster.worked done more := by
  refine worked_congr (fun other _ => ?_) more
  simp only [List.mem_append, List.mem_singleton]
  constructor
  · rintro (earlier | rfl)
    · exact earlier
    · exact before
  · exact .inl

/-- One more serving node works off its queue for the first time. -/
private theorem foldl_obey_worked {cluster : Cluster}
    (distinct : (cluster.nodes.map Node.address).Nodup) (untangled : cluster.Untangled)
    {done : List Address} (more : List Notice) {node : Node} (isRunning : node ∈ cluster.running)
    (first : node.address ∉ done) :
    ∃ extra, (cluster.peersOf node.address = [] → extra = []) ∧
      (cluster.hub.queueOf node.address).foldl (obey node.address)
          ((cluster.worked done more).withHub (cluster.emptied (done ++ [node.address]))) =
        cluster.worked (done ++ [node.address]) (more ++ extra) := by
  have idlePeers := untangled node isRunning
  obtain ⟨isNode, serving⟩ := mem_running_iff.mp isRunning
  obtain ⟨after, isAfter⟩ : ∃ after,
      after = (cluster.worked done more).withHub (cluster.emptied (done ++ [node.address])) :=
    ⟨_, rfl⟩
  -- those whose states are copied have not changed so far
  have fetched : ∀ peer ∈ cluster.peersOf node.address, ∀ replica,
      after.copied node.address replica peer = cluster.copied node.address replica peer := by
    intro peer member replica
    subst isAfter
    refine copied_congr (Hub.sourceOf_withQueues _ _ _ _) ?_ replica
    refine (congrArg _ (node?_revise cluster _ more peer)).trans ?_
    cases isPeer : cluster.node? peer with
    | none => rfl
    | some giving =>
        have unchanged : cluster.afterQueue giving = giving.replica := by
          rw [afterQueue, (mem_nodes_of_node? isPeer).2, idlePeers peer member]
          rfl
        simp [unchanged]
  obtain ⟨extra, quiet, result⟩ := foldl_obey node.address
    (cluster.hub.queueOf node.address) after fun peer member same => by
      have none : cluster.peersOf peer = [] := idlePeers peer member
      rw [same, peersOf] at none
      simp [none] at member
  refine ⟨extra, quiet, ?_⟩
  rw [← isAfter, result, isAfter, revise_withHub, ← isAfter, worked, revise_withHub,
    withHub_withHub, revise_revise, worked]
  congr 1
  refine revise_congr (more ++ extra) fun other listed => ?_
  by_cases same : other.address = node.address
  · obtain rfl := List.inj_on_of_nodup_map distinct listed isNode same
    simp only [serving, first, if_true, List.mem_append, List.mem_singleton, and_false, if_false,
      or_true, and_self, afterQueue, peersOf]
    exact List.foldl_ext _ _ _ fun replica peer member => fetched peer member replica
  · simp [same]

/-- One more address has its turn. -/
theorem work_worked {cluster : Cluster} (distinct : (cluster.nodes.map Node.address).Nodup)
    (untangled : cluster.Untangled) (done : List Address) (more : List Notice)
    (address : Address) :
    ∃ extra, ((∀ node ∈ cluster.running, cluster.peersOf node.address = []) → extra = []) ∧
      (cluster.worked done more).work address =
        cluster.worked (done ++ [address]) (more ++ extra) := by
  have running : (cluster.worked done more).running.map Node.address =
      cluster.running.map Node.address := runningAddresses_revise cluster _ more
  by_cases runs : address ∈ cluster.running.map Node.address
  · have distinct' : ((cluster.worked done more).nodes.map Node.address).Nodup := by
      have same : (cluster.worked done more).nodes.map Node.address =
          cluster.nodes.map Node.address := addresses_revise cluster _ more
      rw [same]
      exact distinct
    have waiting : (cluster.worked done more).hub.queueOf address =
        if address ∈ done then [] else cluster.hub.queueOf address := by
      refine (Hub.queueOf_emptied cluster.hub (fun other =>
        other ∈ done ∧ other ∈ cluster.running.map Node.address) address).trans ?_
      simp only [runs, and_true]
    have hub : ((cluster.worked done more).hub.withQueues fun member =>
        if member.address = address then [] else member.queue) =
        cluster.emptied (done ++ [address]) := by
      refine (Hub.withQueues_withQueues _ _ _).trans (Hub.withQueues_congr fun member _ => ?_)
      by_cases same : member.address = address
      · simp [same, runs]
      · simp [same]
    rw [work_of_running distinct' (running ▸ runs), waiting, hub]
    by_cases before : address ∈ done
    · refine ⟨[], fun _ => rfl, ?_⟩
      rw [if_pos before, List.append_nil, ← worked_of_mem before more]
      rfl
    · rw [if_neg before]
      obtain ⟨node, isRunning, rfl⟩ := List.mem_map.mp runs
      obtain ⟨extra, quiet, result⟩ :=
        foldl_obey_worked distinct untangled more isRunning before
      exact ⟨extra, fun idle => quiet (idle node isRunning), result⟩
  · refine ⟨[], fun _ => rfl, ?_⟩
    rw [work_of_idle (by rw [running]; exact runs), List.append_nil]
    refine worked_congr (fun node isRunning => ?_) more
    have other : node.address ≠ address := fun same =>
      runs (List.mem_map.mpr ⟨node, isRunning, same⟩)
    simp [other]

/-- When the nodes work off their queues in some order, each ends with what its own queue makes of
its replica.  If nobody is told anything nothing is noted. -/
theorem foldl_work {cluster : Cluster} (distinct : (cluster.nodes.map Node.address).Nodup)
    (untangled : cluster.Untangled) (order : List Address) :
    ∃ more, ((∀ node ∈ cluster.running, cluster.peersOf node.address = []) → more = []) ∧
      order.foldl work cluster = cluster.worked order more := by
  induction order using List.reverseRecOn with
  | nil =>
      refine ⟨[], fun _ => rfl, ?_⟩
      have hub : cluster.emptied [] = cluster.hub := Hub.withQueues_self (by simp)
      rw [worked, revise_self (by simp), hub]
      rfl
  | append_singleton order address induction =>
      obtain ⟨more, quiet, result⟩ := induction
      obtain ⟨extra, still, next⟩ := work_worked distinct untangled order more address
      refine ⟨more ++ extra, fun idle => ?_, ?_⟩
      · rw [quiet idle, still idle, List.append_nil]
      · rw [List.foldl_append, result]
        exact next

/-! ## Coordinators -/

/-- A coordinator that has worked off its queue. -/
def informed (cluster : Cluster) (coordinator : Coordinator) : Coordinator :=
  { coordinator with
    book := (cluster.hub.queueOf coordinator.address).foldl bookAfter coordinator.book }

/-- The cluster after the coordinators among some addresses have worked off their queues. -/
def tracked (cluster : Cluster) (done : List Address) : Cluster :=
  { cluster with
    hub := cluster.hub.withQueues fun member =>
      if member.address ∈ done then [] else member.queue
    coordinators := cluster.coordinators.map fun coordinator =>
      if coordinator.address ∈ done then cluster.informed coordinator else coordinator }

theorem track_tracked (cluster : Cluster) (done : List Address) (address : Address) :
    (cluster.tracked done).track address = cluster.tracked (done ++ [address]) := by
  have waiting : (cluster.tracked done).hub.queueOf address =
      if address ∈ done then [] else cluster.hub.queueOf address :=
    Hub.queueOf_emptied cluster.hub (· ∈ done) address
  have hub : ((cluster.tracked done).hub.withQueues fun member =>
      if member.address = address then [] else member.queue) =
      (cluster.tracked (done ++ [address])).hub := by
    refine (Hub.withQueues_withQueues _ _ _).trans (Hub.withQueues_congr fun member _ => ?_)
    by_cases same : member.address = address
    · simp [same]
    · simp [same]
  have coordinators : (cluster.tracked done).coordinators.map (fun coordinator =>
      if coordinator.address = address then
        { coordinator with
          book := ((cluster.tracked done).hub.queueOf address).foldl bookAfter coordinator.book }
      else coordinator) = (cluster.tracked (done ++ [address])).coordinators := by
    refine List.map_map.trans (List.map_congr_left fun coordinator _ => ?_)
    rw [waiting]
    by_cases same : coordinator.address = address
    · by_cases before : address ∈ done
      · simp [same, before, informed]
      · simp [same, before, informed]
    · by_cases before : coordinator.address ∈ done
      · simp [same, before, informed]
      · simp [same, before]
  rw [track, takeEvents_eq, hub]
  simp only [modifyCoordinator]
  rw [show ((cluster.tracked done).withHub (cluster.tracked (done ++ [address])).hub).coordinators =
    (cluster.tracked done).coordinators from rfl, coordinators]
  rfl

theorem foldl_track (cluster : Cluster) (addresses : List Address) :
    addresses.foldl track cluster = cluster.tracked addresses := by
  induction addresses using List.reverseRecOn with
  | nil =>
      have hub : cluster.hub.withQueues (fun member =>
          if member.address ∈ ([] : List Address) then [] else member.queue) = cluster.hub :=
        Hub.withQueues_self (by simp)
      rw [tracked, hub]
      simp
  | append_singleton addresses address induction =>
      rw [List.foldl_append, induction]
      exact cluster.track_tracked addresses address

/-! ## Everybody -/

/-- Whose queues are worked off: the coordinators and the serving nodes. -/
def listeners (cluster : Cluster) : List Address :=
  cluster.coordinators.map Coordinator.address ++ cluster.running.map Node.address

/-- The cluster after everybody has worked off what had arrived. -/
def settled (cluster : Cluster) (more : List Notice) : Cluster :=
  { cluster.revise
      (fun node => if node.phase = .serving then cluster.afterQueue node else node.replica)
      more with
    hub := cluster.hub.withQueues fun member =>
      if member.address ∈ cluster.listeners then [] else member.queue
    coordinators := cluster.coordinators.map cluster.informed }

/-- No process is both a coordinator and a serving node. -/
def Apart (cluster : Cluster) : Prop :=
  ∀ coordinator ∈ cluster.coordinators, ∀ node ∈ cluster.running,
    coordinator.address ≠ node.address

private theorem peersOf_tracked (cluster : Cluster) (done : List Address) (address : Address) :
    (cluster.tracked done).peersOf address =
      if address ∈ done then [] else cluster.peersOf address := by
  have waiting : (cluster.tracked done).hub.queueOf address =
      if address ∈ done then [] else cluster.hub.queueOf address :=
    Hub.queueOf_emptied cluster.hub (· ∈ done) address
  rw [peersOf, waiting]
  split
  · rfl
  · rfl

theorem settleIn_eq {cluster : Cluster} (distinct : (cluster.nodes.map Node.address).Nodup)
    (apart : cluster.Apart) (untangled : cluster.Untangled) {order : List Address}
    (covers : ∀ node ∈ cluster.running, node.address ∈ order) :
    ∃ more, ((∀ node ∈ cluster.running, cluster.peersOf node.address = []) → more = []) ∧
      cluster.settleIn order = cluster.settled more := by
  obtain ⟨told, isTold⟩ : ∃ told, told = cluster.coordinators.map Coordinator.address := ⟨_, rfl⟩
  have outside : ∀ node ∈ cluster.running, node.address ∉ told := by
    intro node isRunning member
    obtain ⟨coordinator, listed, same⟩ := List.mem_map.mp (isTold ▸ member)
    exact apart coordinator listed node isRunning same
  have untangled' : (cluster.tracked told).Untangled := by
    intro node isRunning peer member
    rw [peersOf_tracked, if_neg (outside node isRunning)] at member
    rw [peersOf_tracked, untangled node isRunning peer member, ite_self]
  have distinct' : ((cluster.tracked told).nodes.map Node.address).Nodup := distinct
  obtain ⟨more, quiet, result⟩ := foldl_work distinct' untangled' order
  refine ⟨more, fun idle => quiet fun node isRunning => ?_, ?_⟩
  · rw [peersOf_tracked, idle node isRunning, ite_self]
  · rw [settleIn, foldl_track, ← isTold, result]
    have hub : (cluster.tracked told).emptied order = (cluster.settled more).hub := by
      refine (Hub.withQueues_withQueues _ _ _).trans (Hub.withQueues_congr fun member _ => ?_)
      have listens : member.address ∈ cluster.listeners ↔
          member.address ∈ told ∨
            member.address ∈ order ∧ member.address ∈ cluster.running.map Node.address := by
        rw [listeners, List.mem_append, isTold]
        refine or_congr_right ⟨fun runs => ⟨?_, runs⟩, And.right⟩
        obtain ⟨node, isRunning, same⟩ := List.mem_map.mp runs
        exact same ▸ covers node isRunning
      by_cases coordinates : member.address ∈ told
      · simp [listens, coordinates]
      · simp only [listens, coordinates, false_or, if_false]
        rfl
    have coordinators : (cluster.tracked told).coordinators =
        cluster.coordinators.map cluster.informed := by
      refine List.map_congr_left fun coordinator listed => ?_
      rw [if_pos (isTold ▸ List.mem_map_of_mem listed)]
    have replicas : cluster.revise
          (fun node =>
            if node.phase = .serving ∧ node.address ∈ order then
              (cluster.tracked told).afterQueue node
            else node.replica)
          more =
        cluster.revise
          (fun node => if node.phase = .serving then cluster.afterQueue node else node.replica)
          more := by
      refine revise_congr more fun node listed => ?_
      by_cases serving : node.phase = .serving
      · have isRunning := mem_running_iff.mpr ⟨listed, serving⟩
        simp only [serving, covers node isRunning, and_self, if_true, afterQueue]
        rw [peersOf_tracked, if_neg (outside node isRunning)]
        refine List.foldl_ext _ _ _ fun replica peer _ => copied_congr ?_ ?_ replica
        · exact Hub.sourceOf_withQueues _ _ _ _
        · rfl
      · simp only [serving, false_and, if_false]
    have nodes := congrArg Cluster.nodes replicas
    calc (cluster.tracked told).worked order more
        = { cluster with
            hub := (cluster.tracked told).emptied order
            nodes := (cluster.revise
              (fun node =>
                if node.phase = .serving ∧ node.address ∈ order then
                  (cluster.tracked told).afterQueue node
                else node.replica)
              more).nodes
            coordinators := (cluster.tracked told).coordinators
            notices := cluster.notices ++ more } := rfl
      _ = cluster.settled more := by
        rw [hub, nodes, coordinators]
        rfl

/-- Whoever works off a queue has nothing waiting. -/
def Drained (cluster : Cluster) : Prop :=
  ∀ member ∈ cluster.hub.members, member.address ∈ cluster.listeners → member.queue = []

theorem Drained.queueOf {cluster : Cluster} (drained : cluster.Drained) {address : Address}
    (listens : address ∈ cluster.listeners) : cluster.hub.queueOf address = [] :=
  Hub.queueOf_eq_nil fun member listed same => drained member listed (same ▸ listens)

/-! ## Nothing to copy -/

/-- The cluster after the coordinators and some other addresses have read what had arrived, if
nobody had to copy a state. -/
def quieted (cluster : Cluster) (addresses : List Address) : Cluster :=
  { cluster with
    hub := cluster.hub.withQueues fun member =>
      if member.address ∈ addresses then [] else member.queue
    coordinators := cluster.coordinators.map cluster.informed }

theorem settled_of_quiet {cluster : Cluster}
    (quiet : ∀ node ∈ cluster.running, cluster.peersOf node.address = []) :
    cluster.settled [] = cluster.quieted cluster.listeners := by
  have replicas : cluster.revise
      (fun node => if node.phase = .serving then cluster.afterQueue node else node.replica) [] =
      cluster := by
    refine revise_self fun node listed => ?_
    by_cases serving : node.phase = .serving
    · rw [if_pos serving, afterQueue, quiet node (mem_running_iff.mpr ⟨listed, serving⟩)]
      rfl
    · rw [if_neg serving]
  rw [settled, replicas]
  rfl

theorem settle_of_quiet {cluster : Cluster} (distinct : (cluster.nodes.map Node.address).Nodup)
    (apart : cluster.Apart)
    (quiet : ∀ node ∈ cluster.running, cluster.peersOf node.address = []) :
    cluster.settle = cluster.quieted cluster.listeners := by
  have untangled : cluster.Untangled := by
    intro node isRunning peer member
    simp [quiet node isRunning] at member
  have covers : ∀ node ∈ cluster.running, node.address ∈ cluster.nodes.map Node.address :=
    fun node isRunning => List.mem_map_of_mem (mem_running_iff.mp isRunning).1
  obtain ⟨more, silent, result⟩ := settleIn_eq distinct apart untangled covers
  rw [settle, result, silent quiet, settled_of_quiet quiet]

theorem drained_quieted {cluster : Cluster} {addresses : List Address}
    (covers : ∀ address ∈ cluster.listeners, address ∈ addresses) :
    (cluster.quieted addresses).Drained := by
  have listeners : (cluster.quieted addresses).listeners = cluster.listeners := by
    simp [Cluster.listeners, quieted, informed, running, Function.comp_def]
  intro member listed listens
  obtain ⟨old, -, rfl⟩ := List.mem_map.mp listed
  rw [listeners] at listens
  exact if_pos (covers _ listens)

end Cluster

end AuctionHouse
