import AuctionHouse.Proofs.Commands
import AuctionHouse.Proofs.ProperHub

/-!
# The course of events

What happens to a cluster of nodes and coordinators, one thing at a time and in any order: nodes
start step by step, processes leave, addresses are cut off and connected again, requests go around
and commands are given, and everybody reads what has arrived whenever they like.  Whatever the
program does in one go is a course of such events.
-/

namespace AuctionHouse

/-- One thing that happens. -/
inductive Occurrence where
  /-- A coordinator attaches. -/
  | attached (coordinator : Address)
  /-- A node joins the multicast group. -/
  | joined (node : Address)
  /-- A joining node tries to get a state. -/
  | tried (node : Address)
  /-- A joining node joins the RPC group. -/
  | entered (node rpc : Address)
  /-- A joining node announces its two addresses; from now on it is running. -/
  | announced (node rpc : Address)
  /-- A process leaves both groups. -/
  | left (address : Address)
  /-- A node that has left has worked off its queue. -/
  | stopped (node : Address)
  /-- An address is cut off. -/
  | isolated (address : Address)
  /-- An address is connected again. -/
  | healed (address : Address)
  /-- A request goes around. -/
  | asked (coordinator : Address) (request : Request)
  /-- A coordinator gives a command. -/
  | commanded (coordinator target peer : Address)
  /-- A coordinator reads what has arrived. -/
  | tracked (coordinator : Address)
  /-- A node works off what has arrived. -/
  | worked (node : Address)

/-- Nobody comes or goes by it, and nobody gives an address or announces one. -/
def Occurrence.isQuiet : Occurrence → Bool
  | .tried _ | .isolated _ | .healed _ | .asked .. | .commanded .. | .tracked _ | .worked _ => true
  | .attached _ | .joined _ | .entered .. | .announced .. | .left _ | .stopped _ => false

/-- A request goes around. -/
def Occurrence.isAsked : Occurrence → Bool
  | .asked .. => true
  | _ => false

theorem Occurrence.ne_of_isQuiet {occurrence other : Occurrence}
    (quiet : occurrence.isQuiet = true) (loud : other.isQuiet = false) : occurrence ≠ other := by
  rintro rfl
  exact Bool.false_ne_true (loud.symm.trans quiet)

namespace Cluster

/-- The cluster after an attempt to get a state. -/
def Attempt.after : Attempt → Cluster
  | .ready cluster | .blocked _ cluster | .failed _ cluster => cluster

/-- What one thing that happens makes of a cluster.  Coordinators and running nodes may leave; a
node joins the RPC group once, before it announces itself. -/
inductive Happens (cluster : Cluster) : Occurrence → Cluster → Prop
  | attach {address : Address} {hub : Hub StateSource Answerer}
      (attached : cluster.hub.attach? = some (address, hub)) :
      Happens cluster (.attached address)
        { cluster with
          hub
          coordinators :=
            cluster.coordinators ++ [{ address, book := .empty, sessions := .empty }] }
  | join {address : Address} {after : Cluster}
      (joined : cluster.joinNode? = some (address, after)) :
      Happens cluster (.joined address) after
  | try (address : Address) : Happens cluster (.tried address) (cluster.attempt address).after
  | enter {node : Node} {rpc : Address} {hub : Hub StateSource Answerer}
      (listed : node ∈ cluster.nodes) (joining : node.phase = .joining)
      (first : cluster.hub.rpcAddress? node.address = none)
      (joinRpc : cluster.hub.joinRpc? node.address (.node node.address) = some (rpc, hub)) :
      Happens cluster (.entered node.address rpc) (cluster.withHub hub)
  | announce {node : Node} {rpc : Address} {hub : Hub StateSource Answerer}
      (listed : node ∈ cluster.nodes) (joining : node.phase = .joining)
      (answers : cluster.hub.rpcAddress? node.address = some rpc)
      (announced : cluster.hub.announce node.address rpc = .ok hub) :
      Happens cluster (.announced node.address rpc)
        ((cluster.withHub hub).modifyNode node.address fun node => { node with phase := .serving })
  | leave {address : Address} (present : address ∈ cluster.listeners) :
      Happens cluster (.left address) (cluster.withHub (cluster.hub.leave address))
  | stop {node : Node} (isRunning : node ∈ cluster.running)
      (gone : cluster.hub.isSubscriber node.address = false) :
      Happens cluster (.stopped node.address)
        (cluster.modifyNode node.address fun node => { node with phase := .stopped })
  | isolate (address : Address) : Happens cluster (.isolated address) (cluster.isolate address)
  | heal (address : Address) : Happens cluster (.healed address) (cluster.heal address)
  | ask (me : Address) (request : Request) :
      Happens cluster (.asked me request) (cluster.callAll me request).2
  | command (me target peer : Address) :
      Happens cluster (.commanded me target peer) (carryOut me cluster [(target, peer)])
  | track (me : Address) : Happens cluster (.tracked me) (cluster.track me)
  | work (address : Address) : Happens cluster (.worked address) (cluster.work address)

/-- A course of events, each with the cluster to which it happened, oldest first. -/
inductive Course (begun : Cluster) : List (Cluster × Occurrence) → Cluster → Prop
  | begin : Course begun [] begun
  | next {past : List (Cluster × Occurrence)} {cluster after : Cluster} {occurrence : Occurrence}
      (course : Course begun past cluster) (happens : cluster.Happens occurrence after) :
      Course begun (past ++ [(cluster, occurrence)]) after

variable {begun cluster after done : Cluster} {past later : List (Cluster × Occurrence)}
  {occurrence : Occurrence}

/-- Courses compose. -/
theorem Course.append (course : begun.Course past cluster)
    (onward : cluster.Course later after) : begun.Course (past ++ later) after := by
  induction onward with
  | begin =>
      rw [List.append_nil]
      exact course
  | next onward happens induction =>
      rw [← List.append_assoc]
      exact induction.next happens

/-! ## What stays while things happen -/

/-- What a coordinator knows when it has read what has arrived. -/
def outlook (cluster : Cluster) (me : Address) : AddressBook :=
  cluster.hub.noted me (cluster.bookOf me)

/-- Everybody stays where they stand, the same members answer requests and coordinators know what
they knew; replicas and queues, and who is cut off, may have changed. -/
structure Unmoved (cluster after : Cluster) : Prop where
  proper : cluster.hub.Proper → after.hub.Proper
  standing : ∀ address, after.hub.standing address = cluster.hub.standing address
  view : after.hub.rpcView = cluster.hub.rpcView
  handlers : after.hub.handlers = cluster.hub.handlers
  nodes : ∃ replica : Node → Replica,
    after.nodes = cluster.nodes.map fun node => { node with replica := replica node }
  coordinators : after.coordinators.map Coordinator.address =
    cluster.coordinators.map Coordinator.address
  outlook : ∀ me ∈ cluster.coordinators.map Coordinator.address,
    me ∉ cluster.nodes.map Node.address → after.outlook me = cluster.outlook me

theorem Unmoved.addresses (unmoved : cluster.Unmoved after) :
    after.nodes.map Node.address = cluster.nodes.map Node.address := by
  obtain ⟨replica, nodes⟩ := unmoved.nodes
  rw [nodes, List.map_map]
  rfl

theorem Unmoved.trans (first : cluster.Unmoved after) (second : after.Unmoved done) :
    cluster.Unmoved done where
  proper := fun proper => second.proper (first.proper proper)
  standing := fun address => (second.standing address).trans (first.standing address)
  view := second.view.trans first.view
  handlers := second.handlers.trans first.handlers
  nodes := by
    obtain ⟨replica, nodes⟩ := first.nodes
    obtain ⟨replica', nodes'⟩ := second.nodes
    refine ⟨fun node => replica' { node with replica := replica node }, ?_⟩
    rw [nodes', nodes, List.map_map]
    rfl
  coordinators := second.coordinators.trans first.coordinators
  outlook := by
    intro me coordinates apart
    rw [second.outlook me (first.coordinators ▸ coordinates) (first.addresses ▸ apart),
      first.outlook me coordinates apart]

/-- Nobody is moved by what concerns neither the groups nor the coordinators. -/
theorem Unmoved.of_hub (proper : cluster.hub.Proper → after.hub.Proper)
    (standing : ∀ address, after.hub.standing address = cluster.hub.standing address)
    (view : after.hub.rpcView = cluster.hub.rpcView)
    (handlers : after.hub.handlers = cluster.hub.handlers)
    (nodes : after.nodes = cluster.nodes) (coordinators : after.coordinators = cluster.coordinators)
    (noted : ∀ me ∉ cluster.nodes.map Node.address, ∀ book,
      after.hub.noted me book = cluster.hub.noted me book) : cluster.Unmoved after where
  proper := proper
  standing := standing
  view := view
  handlers := handlers
  nodes := ⟨Node.replica, by rw [nodes]; simp⟩
  coordinators := congrArg _ coordinators
  outlook := by
    intro me _ apart
    rw [Cluster.outlook, noted me apart, bookOf, coordinator?, coordinators]
    rfl

theorem Unmoved.refl (cluster : Cluster) : cluster.Unmoved cluster :=
  .of_hub id (fun _ => rfl) rfl rfl rfl rfl fun _ _ _ => rfl

/-- Other replicas and notices move nobody. -/
theorem unmoved_revise (cluster : Cluster) (replica : Node → Replica) (more : List Notice) :
    cluster.Unmoved (cluster.revise replica more) where
  proper := id
  standing := fun _ => rfl
  view := rfl
  handlers := rfl
  nodes := ⟨replica, rfl⟩
  coordinators := rfl
  outlook := fun _ _ _ => rfl

theorem unmoved_isolate (cluster : Cluster) (address : Address) :
    cluster.Unmoved (cluster.isolate address) :=
  .of_hub (fun proper => proper.isolate address) (fun _ => rfl) rfl rfl rfl rfl fun _ _ _ => rfl

theorem unmoved_heal (cluster : Cluster) (address : Address) :
    cluster.Unmoved (cluster.heal address) :=
  .of_hub (fun proper => proper.heal address) (fun _ => rfl) rfl rfl rfl rfl fun _ _ _ => rfl

theorem unmoved_setReplica (cluster : Cluster) (address : Address) (replica : Replica) :
    cluster.Unmoved (cluster.setReplica address replica) := by
  rw [setReplica_eq]
  exact cluster.unmoved_revise _ _

theorem unmoved_attempt (cluster : Cluster) (address : Address) :
    cluster.Unmoved (cluster.attempt address).after := by
  rw [attempt]
  split
  · split
    · simp only [Attempt.after, modifyNode_eq]
      exact cluster.unmoved_revise _ _
    · exact .refl cluster
  · split
    · split
      · exact cluster.unmoved_setReplica _ _
      · exact cluster.unmoved_setReplica _ _
    · exact .refl cluster

theorem unmoved_answer (cluster : Cluster) (request : Request) (answerer : Answerer) :
    cluster.Unmoved (cluster.answer request answerer).2 := by
  cases answerer with
  | guest address rule => exact .of_hub id (fun _ => rfl) rfl rfl rfl rfl fun _ _ _ => rfl
  | node address =>
      rw [answer]
      split
      · exact cluster.unmoved_setReplica _ _
      · exact .refl cluster

theorem unmoved_collect (request : Request) (asked : List (Address × Answerer))
    (cluster : Cluster) : cluster.Unmoved (collect request asked cluster).2 := by
  induction asked generalizing cluster with
  | nil => exact .refl cluster
  | cons head rest induction =>
      rw [collect_cons_snd]
      exact (cluster.unmoved_answer request head.2).trans (induction _)

/-- A request that goes around moves nobody. -/
theorem unmoved_callAll (cluster : Cluster) (me : Address) (request : Request) :
    cluster.Unmoved (cluster.callAll me request).2 := by
  rw [callAll]
  split
  · exact unmoved_collect _ _ cluster
  · exact .refl cluster

/-- Neither does a command. -/
theorem unmoved_command (cluster : Cluster) (me target peer : Address) :
    cluster.Unmoved (carryOut me cluster [(target, peer)]) := by
  obtain ⟨more, carried⟩ := carryOut_cons me cluster target peer []
  rw [carried]
  refine (cluster.unmoved_revise Node.replica more).trans (.of_hub ?_ ?_ rfl rfl rfl rfl ?_)
  · exact fun proper => proper.withQueues _
  · exact Hub.standing_withQueues _ _
  · intro other _ book
    refine Hub.noted_withQueues (fun member _ _ book => ?_) book
    rw [List.foldl_append, Hub.commandsFor]
    split
    · cases ([(target, peer)] : List (Address × Address)).lookup member.address with
      | none => rfl
      | some source => rfl
    · rfl

theorem bookOf_tracked (cluster : Cluster) (done : List Address) {me : Address}
    (coordinates : me ∈ cluster.coordinators.map Coordinator.address) :
    (cluster.tracked done).bookOf me =
      if me ∈ done then cluster.outlook me else cluster.bookOf me := by
  have found : (cluster.tracked done).coordinator? me =
      (cluster.coordinator? me).map fun coordinator =>
        if coordinator.address ∈ done then cluster.informed coordinator else coordinator := by
    refine find?_map_of_named (fun coordinator => ?_) cluster.coordinators me
    split
    · rfl
    · rfl
  rw [outlook, bookOf, bookOf, found]
  cases present : cluster.coordinator? me with
  | none =>
      obtain ⟨coordinator, listed, named⟩ := List.mem_map.mp coordinates
      have absent := List.find?_eq_none.mp present coordinator listed
      simp [named] at absent
  | some coordinator =>
      have named : coordinator.address = me := by simpa using List.find?_some present
      rw [Option.map_some, named]
      split
      · simp [informed, named, Hub.noted]
      · rfl

/-- A coordinator that reads what has arrived knows what it would have known. -/
theorem unmoved_track (cluster : Cluster) (me : Address) : cluster.Unmoved (cluster.track me) := by
  rw [show cluster.track me = cluster.tracked [me] from cluster.foldl_track [me]]
  refine ⟨fun proper => proper.withQueues _, Hub.standing_withQueues _ _, rfl, rfl,
    ⟨Node.replica, ?_⟩, ?_, fun other coordinates _ => ?_⟩
  · simp [tracked]
  · simp only [tracked, List.map_map]
    refine List.map_congr_left fun coordinator _ => ?_
    simp only [Function.comp_apply]
    split
    · rfl
    · rfl
  · have waiting : (cluster.tracked [me]).hub.queueOf other =
        if other ∈ [me] then [] else cluster.hub.queueOf other :=
      Hub.queueOf_emptied cluster.hub (· ∈ [me]) other
    rw [outlook, Hub.noted, waiting, cluster.bookOf_tracked [me] coordinates]
    split
    · rfl
    · rfl

/-- A node that obeys commands moves nobody. -/
theorem unmoved_obey (address : Address) (events : List Event) (cluster : Cluster) :
    cluster.Unmoved (events.foldl (obey address) cluster) := by
  induction events generalizing cluster with
  | nil => exact .refl cluster
  | cons event rest induction =>
      rw [List.foldl_cons]
      refine Unmoved.trans ?_ (induction _)
      cases commands : event.peer? with
      | none =>
          rw [obey_of_none commands]
          exact .refl cluster
      | some peer =>
          obtain ⟨more, obeyed⟩ := obey_of_some commands address cluster
          rw [obeyed]
          exact cluster.unmoved_revise _ more

theorem unmoved_work (cluster : Cluster) (address : Address) :
    cluster.Unmoved (cluster.work address) := by
  rw [work]
  split
  · rename_i phase
    obtain ⟨node, found, -⟩ := Option.map_eq_some_iff.mp phase
    obtain ⟨listed, named⟩ := mem_nodes_of_node? found
    simp only [takeEvents_eq]
    refine Unmoved.trans ?_ (unmoved_obey address _ _)
    refine .of_hub ?_ ?_ rfl rfl rfl rfl ?_
    · exact fun proper => proper.withQueues _
    · exact Hub.standing_withQueues _ _
    · intro other apart book
      refine Hub.noted_withQueues (fun member _ isOther book => ?_) book
      have differ : member.address ≠ address := by
        intro same
        refine apart (List.mem_map.mpr ⟨node, listed, ?_⟩)
        rw [named, ← same, isOther]
      rw [if_neg differ]
  · exact .refl cluster

/-- Nobody is moved unless somebody comes or goes, or announces itself. -/
theorem Happens.unmoved (happens : cluster.Happens occurrence after)
    (quiet : occurrence.isQuiet = true) : cluster.Unmoved after := by
  cases happens with
  | «try» address => exact cluster.unmoved_attempt address
  | isolate address => exact cluster.unmoved_isolate address
  | heal address => exact cluster.unmoved_heal address
  | ask me request => exact cluster.unmoved_callAll me request
  | command me target peer => exact cluster.unmoved_command me target peer
  | track me => exact cluster.unmoved_track me
  | work address => exact cluster.unmoved_work address
  | attach | join | enter | announce | leave | stop => contradiction

/-! ## What the program does in one go -/

/-- Some course leads from one cluster to another. -/
def Leads (cluster after : Cluster) : Prop := ∃ past, cluster.Course past after

theorem Happens.leads (happens : cluster.Happens occurrence after) : cluster.Leads after :=
  ⟨_, Course.begin.next happens⟩

theorem Leads.refl (cluster : Cluster) : cluster.Leads cluster := ⟨[], .begin⟩

theorem Leads.trans (first : cluster.Leads after) (second : after.Leads done) :
    cluster.Leads done := by
  obtain ⟨past, course⟩ := first
  obtain ⟨later, onward⟩ := second
  exact ⟨past ++ later, course.append onward⟩

/-- Some course in which no request goes around leads from one cluster to another. -/
def Shifts (cluster after : Cluster) : Prop :=
  ∃ past, cluster.Course past after ∧ ∀ entry ∈ past, entry.2.isAsked = false

theorem Shifts.leads (shifts : cluster.Shifts after) : cluster.Leads after := by
  obtain ⟨past, course, -⟩ := shifts
  exact ⟨past, course⟩

theorem Happens.shifts (happens : cluster.Happens occurrence after)
    (unasked : occurrence.isAsked = false) : cluster.Shifts after :=
  ⟨_, Course.begin.next happens, by simpa using unasked⟩

theorem Shifts.refl (cluster : Cluster) : cluster.Shifts cluster := ⟨[], .begin, by simp⟩

theorem Shifts.trans (first : cluster.Shifts after) (second : after.Shifts done) :
    cluster.Shifts done := by
  obtain ⟨past, course, unasked⟩ := first
  obtain ⟨later, onward, stillUnasked⟩ := second
  refine ⟨past ++ later, course.append onward, fun entry member => ?_⟩
  rcases List.mem_append.mp member with old | new
  · exact unasked entry old
  · exact stillUnasked entry new

/-- What every single thing keeps that happens apart from requests is kept. -/
theorem Shifts.keep {holds : Cluster → Prop} (shifts : cluster.Shifts after)
    (begun : holds cluster)
    (happen : ∀ {before next : Cluster} {occurrence : Occurrence}, holds before →
      before.Happens occurrence next → occurrence.isAsked = false → holds next) :
    holds after := by
  obtain ⟨past, course, unasked⟩ := shifts
  induction course with
  | begin => exact begun
  | next course happens induction =>
      have earlier := induction fun entry member => unasked entry (List.mem_append_left _ member)
      exact happen earlier happens
        (unasked _ (List.mem_append_right _ (List.mem_singleton_self _)))

/-- Things that happen one after the other move nobody if none of them does. -/
theorem shifts_foldl {step : Cluster → Address → Cluster} {label : Address → Occurrence}
    (unasked : ∀ address, (label address).isAsked = false)
    (happens : ∀ cluster address, Happens cluster (label address) (step cluster address))
    (still : ∀ cluster address, Unmoved cluster (step cluster address))
    (addresses : List Address) (cluster : Cluster) :
    cluster.Shifts (addresses.foldl step cluster) ∧
      cluster.Unmoved (addresses.foldl step cluster) := by
  induction addresses generalizing cluster with
  | nil => exact ⟨.refl cluster, .refl cluster⟩
  | cons head rest induction =>
      obtain ⟨shifts, unmoved⟩ := induction (step cluster head)
      exact ⟨((happens cluster head).shifts (unasked head)).trans shifts,
        (still cluster head).trans unmoved⟩

/-- Everybody may read what has arrived, and moves nobody by it. -/
theorem shifts_settleIn (cluster : Cluster) (order : List Address) :
    cluster.Shifts (cluster.settleIn order) ∧ cluster.Unmoved (cluster.settleIn order) := by
  obtain ⟨reads, unmoved⟩ := shifts_foldl (fun _ => rfl) @Happens.track unmoved_track
    (cluster.coordinators.map Coordinator.address) cluster
  obtain ⟨works, unmoved'⟩ := shifts_foldl (fun _ => rfl) @Happens.work unmoved_work order
    ((cluster.coordinators.map Coordinator.address).foldl track cluster)
  exact ⟨reads.trans works, unmoved.trans unmoved'⟩

theorem shifts_settle (cluster : Cluster) :
    cluster.Shifts cluster.settle ∧ cluster.Unmoved cluster.settle :=
  cluster.shifts_settleIn _

theorem leads_carryOut (me : Address) (plan : List (Address × Address)) (cluster : Cluster) :
    cluster.Leads (carryOut me cluster plan) := by
  induction plan generalizing cluster with
  | nil => exact .refl cluster
  | cons head rest induction =>
      rw [carryOut_split]
      exact (Happens.command me head.1 head.2).leads.trans (induction _)

theorem leads_settledRound (cluster : Cluster) (me : Address) (request : Request) :
    cluster.Leads (cluster.settledRound me request).2 := by
  have repaired : (cluster.settledRound me request).2 =
      ((cluster.callAll me request).2.repair me
        (cluster.ballotRound me request).1).settle := rfl
  rw [repaired, repair_eq]
  have settles := (shifts_settle (carryOut me (cluster.callAll me request).2
    ((cluster.ballotRound me request).1.repairPlan ((cluster.callAll me request).2.bookOf me)))).1
  exact (Happens.ask me request).leads.trans ((leads_carryOut me _ _).trans settles.leads)

/-- An operation of a coordinator is a course of events. -/
theorem leads_perform (cluster : Cluster) (me : Address) (operation : Operation) :
    cluster.Leads (operation.perform cluster me).2 := by
  have performed := operation.perform_eq cluster me
    (Prod.mk.eta (p := (operation.prepared cluster me).settledRound me
      (operation.request cluster.accounts))).symm
  rw [performed]
  refine Leads.trans ?_ (leads_settledRound _ me _)
  cases operation with
  | verify => exact .refl cluster
  | _ => exact cluster.leads_settledRound me .fingerprint

theorem shifts_startCoordinator (cluster : Cluster) :
    cluster.Shifts cluster.startCoordinator.2 := by
  rw [startCoordinator]
  split
  · rename_i address hub attached
    exact ((Happens.attach attached).shifts rfl).trans (shifts_settle _).1
  · exact .refl cluster

theorem shifts_leave {address : Address} (present : address ∈ cluster.listeners) :
    cluster.Shifts (cluster.leave address) :=
  ((Happens.leave present).shifts rfl).trans (shifts_settle _).1

/-- Stopping a node is a course of events: it leaves, everybody reads what has arrived, and then the
node obeys no more commands. -/
theorem shifts_stopNode (proper : cluster.hub.Proper) {node : Node}
    (isRunning : node ∈ cluster.running) : cluster.Shifts (cluster.stopNode node.address) := by
  obtain ⟨left, isLeft⟩ : ∃ left, left = cluster.withHub (cluster.hub.leave node.address) :=
    ⟨_, rfl⟩
  have leaves : cluster.Shifts left := by
    rw [isLeft]
    exact (Happens.leave (List.mem_append_right _ (List.mem_map_of_mem isRunning))).shifts rfl
  obtain ⟨settles, unmoved⟩ := left.shifts_settle
  obtain ⟨listed, serving⟩ := mem_running_iff.mp isRunning
  obtain ⟨replica, nodes⟩ := unmoved.nodes
  have still : { node with replica := replica node } ∈ left.settle.running := by
    refine mem_running_iff.mpr ⟨?_, serving⟩
    rw [nodes, isLeft]
    exact List.mem_map_of_mem (f := fun node => { node with replica := replica node }) listed
  have gone : left.settle.hub.isSubscriber node.address = false := by
    have proper' : left.hub.Proper := by
      rw [isLeft]
      exact proper.leave node.address
    refine Bool.eq_false_iff.mpr fun receives => ?_
    obtain ⟨rpc, stands⟩ := (Hub.isSubscriber_iff (unmoved.proper proper').distinct).mp receives
    rw [unmoved.standing, isLeft] at stands
    exact ((Hub.listens_leave proper.distinct _ _).mp ⟨rpc, stands⟩).1 rfl
  have stopped := (Happens.stop still gone).shifts rfl
  rw [isLeft] at leaves settles stopped
  exact leaves.trans (settles.trans stopped)

theorem leads_stopNode (proper : cluster.hub.Proper) {node : Node}
    (isRunning : node ∈ cluster.running) : cluster.Leads (cluster.stopNode node.address) :=
  (shifts_stopNode proper isRunning).leads

/-- A joining node that has its state joins the RPC group and announces itself. -/
theorem shifts_beginServing {node : Node} (listed : node ∈ cluster.nodes)
    (joining : node.phase = .joining)
    (stands : cluster.hub.standing node.address = some (true, none)) :
    cluster.Shifts (cluster.beginServing node.address).2 := by
  have first : cluster.hub.rpcAddress? node.address = none := by
    rw [Hub.rpcAddress?_eq, stands]
    rfl
  rw [beginServing]
  split
  · exact .refl cluster
  · rename_i rpc hub joinRpc
    have enters := (Happens.enter listed joining first joinRpc).shifts rfl
    split
    · exact enters
    · rename_i after announced
      have answers : hub.rpcAddress? node.address = some rpc := by
        rw [Hub.rpcAddress?_eq, Hub.standing_joinRpc joinRpc, if_pos rfl, stands]
        rfl
      have announces : (cluster.withHub hub).Happens (.announced node.address rpc) _ :=
        .announce listed joining answers announced
      exact enters.trans (announces.shifts rfl)

/-- Who joins becomes a node that does not answer requests yet. -/
theorem joinNode?_eq_some {address : Address} (joined : cluster.joinNode? = some (address, after)) :
    ∃ hub, cluster.hub.join? .node = some (address, hub) ∧
      after = { cluster with
        hub
        nodes := cluster.nodes ++ [{
          address
          replica := .fresh cluster.settings.firstId cluster.settings.probeLimit
          phase := .joining }] } := by
  obtain ⟨⟨given, hub⟩, join, result⟩ := Option.map_eq_some_iff.mp joined
  obtain ⟨rfl, rfl⟩ := Prod.mk.inj result
  exact ⟨hub, join, rfl⟩

/-- Starting a node is a course of events, whatever comes of it. -/
theorem shifts_startNode (proper : cluster.hub.Proper) : cluster.Shifts cluster.startNode.2 := by
  rw [startNode, startNodeAmid]
  split
  · exact .refl cluster
  · rename_i me joined isJoined
    have joins := (Happens.join isJoined).shifts rfl
    have tries : joined.Shifts (joined.attempt me).after := (Happens.try me).shifts rfl
    have unmoved := joined.unmoved_attempt me
    obtain ⟨hub, join, rfl⟩ := joinNode?_eq_some isJoined
    have stands := (Hub.standing_join proper.numbered join me).trans (if_pos rfl)
    have listed := List.mem_append_right cluster.nodes (List.mem_singleton_self
      (⟨me, .fresh cluster.settings.firstId cluster.settings.probeLimit, .joining⟩ : Node))
    rw [initialise]
    generalize Cluster.attempt _ me = attempt at tries unmoved ⊢
    have settled := (joins.trans tries).trans (shifts_settle _).1
    cases attempt with
    | failed fault after => exact settled
    | blocked fault after => exact settled
    | ready ready =>
        obtain ⟨replica, nodes⟩ := unmoved.nodes
        have still := List.mem_map_of_mem (f := fun node : Node =>
          { node with replica := replica node }) listed
        rw [← nodes] at still
        have begins : ready.Shifts (ready.beginServing me).2 :=
          shifts_beginServing still rfl ((unmoved.standing me).trans stands)
        exact ((joins.trans tries).trans begins).trans (shifts_settle _).1

end Cluster

end AuctionHouse
