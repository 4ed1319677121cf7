import AuctionHouse.Proofs.Course
import AuctionHouse.Proofs.Undisturbed

/-!
# What all nodes hold

A node's state is the empty one, or comes from the seed file, or from serving a request, or from
another member that hands it out to a node that joins or that was told to copy it.  So a property
that the empty state has, and that seeding and serving keep, is a property of all states on all
nodes, running or not, whoever comes and goes and whoever is cut off in the meantime.
-/

namespace AuctionHouse

/-! ## What members hand over -/

namespace Hub

variable {source handler : Type} {hub after : Hub source handler} {address rpc : Address}

/-- What the members hand over, in the order of their joining. -/
def sources (hub : Hub source handler) : List (Option source) := hub.members.map Member.source

@[simp]
theorem sources_withQueues (hub : Hub source handler) (queue : Member source → List Event) :
    (hub.withQueues queue).sources = hub.sources := by
  simp [sources, withQueues, Function.comp_def]

@[simp]
theorem sources_deliver (hub : Hub source handler) (event : Event) (chosen : Address → Bool) :
    (hub.deliver event chosen).sources = hub.sources := by
  rw [deliver_eq, sources_withQueues]

theorem sources_relocate (hub : Hub source handler) (address : Address)
    (receives : Bool → Bool) (rpc : Option Address) :
    (hub.relocate address receives rpc).sources = hub.sources := by
  simp only [sources, relocate, modifyMember, List.map_map]
  refine List.map_congr_left fun member _ => ?_
  simp only [Function.comp_apply]
  split
  · rfl
  · rfl

theorem sources_attach (attached : hub.attach? = some (address, after)) :
    after.sources = hub.sources ++ [none] := by
  obtain ⟨-, -, rfl⟩ := attach?_eq_some attached
  exact List.map_append

theorem sources_join {state : source} (join : hub.join? state = some (address, after)) :
    after.sources = hub.sources ++ [some state] := by
  obtain ⟨-, -, rfl⟩ := join?_eq_some join
  exact (sources_deliver _ _ _).trans List.map_append

theorem sources_joinRpc {answer : handler}
    (joinRpc : hub.joinRpc? address answer = some (rpc, after)) : after.sources = hub.sources := by
  obtain ⟨-, -, rfl⟩ := joinRpc?_eq_some joinRpc
  exact (sources_relocate _ address (fun receives => receives) (some rpc)).trans
    (sources_deliver _ _ _)

theorem sources_announce (announced : hub.announce address rpc = .ok after) :
    after.sources = hub.sources := by
  rw [announce_eq_ok announced, sources_deliver]

theorem sources_leave (hub : Hub source handler) (address : Address) :
    (hub.leave address).sources = hub.sources := by
  by_cases receives : hub.isSubscriber address = true
  · have silenced : (hub.silenced address).sources = hub.sources := by
      refine Eq.trans ?_ (hub.sources_relocate address (fun _ => false) none)
      rw [Hub.silenced]
      split
      · exact sources_deliver _ _ _
      · rfl
    rw [leave_of_subscriber receives]
    cases hub.rpcAddress? address with
    | none => exact silenced
    | some rpc => exact (sources_deliver _ _ _).trans silenced
  · rw [leave, if_neg receives]

theorem mem_sources_of_sourceOf {asking giving : Address} {state : source}
    (handed : hub.sourceOf asking giving = .ok state) : some state ∈ hub.sources := by
  rw [sourceOf_eq] at handed
  split at handed
  · cases found : hub.members.find? fun member =>
        member.isSubscribed && decide (member.address = giving) with
    | none => simp [found] at handed
    | some member =>
        rw [found, Option.bind_some] at handed
        cases own : member.source with
        | none => simp [own] at handed
        | some given =>
            rw [own] at handed
            obtain rfl := Except.ok.inj handed
            rw [← own]
            exact List.mem_map_of_mem (List.mem_of_find?_eq_some found)
  · simp at handed

/-! ## Who answers -/

theorem mem_handlers_of_leave {entry : Address × handler}
    (answers : entry ∈ (hub.leave address).handlers) : entry ∈ hub.handlers := by
  by_cases receives : hub.isSubscriber address = true
  · rw [handlers_leave receives] at answers
    split at answers
    · exact List.mem_of_mem_filter answers
    · exact answers
  · rw [leave, if_neg receives] at answers
    exact answers

theorem mem_handlers_of_audience {entry : Address × handler}
    (asked : entry ∈ hub.audience address) : entry ∈ hub.handlers := by
  rw [audience] at asked
  split at asked
  · obtain ⟨rpc, -, found⟩ := List.mem_filterMap.mp asked
    exact List.mem_of_find?_eq_some found
  · simp at asked

end Hub

namespace Cluster

variable {cluster after done : Cluster} {holds : Snapshot → Prop} {occurrence : Occurrence}

/-- All nodes hold states with a property, all states that other members hand over have it, and
nobody but nodes answers requests. -/
structure Every (cluster : Cluster) (holds : Snapshot → Prop) : Prop where
  nodes : ∀ node ∈ cluster.nodes, holds node.replica.snapshot
  sources : ∀ snapshot, some (StateSource.fixed snapshot) ∈ cluster.hub.sources → holds snapshot
  handlers : ∀ entry ∈ cluster.hub.handlers, ∃ address, entry.2 = .node address

/-- What a member gets from another one is a state that this one holds or hands over. -/
theorem Every.of_fetch (every : cluster.Every holds)
    (legible : ∀ snapshot, holds snapshot → snapshot.Storable) {asking giving : Address}
    {snapshot : Snapshot} (fetched : cluster.fetchSnapshot asking giving = .ok snapshot) :
    holds snapshot := by
  have carried {given : Snapshot} (held : holds given)
      (sent : (Wire.transmit given).mapError Fault.wire = .ok snapshot) : holds snapshot := by
    rw [Wire.transmit_of_survives (Wire.survives_snapshot (legible given held))] at sent
    obtain rfl := Except.ok.inj sent
    exact held
  rw [fetchSnapshot] at fetched
  split at fetched
  · simp at fetched
  · simp at fetched
  · rename_i given handed
    exact carried (every.sources given (Hub.mem_sources_of_sourceOf handed)) fetched
  · split at fetched
    · rename_i node found
      exact carried (every.nodes node (mem_nodes_of_node? found).1) fetched
    · simp at fetched

/-! ## Where nobody comes or goes -/

/-- The same processes in the same places: queues, notices and address books may have changed, and
replicas to states with a property. -/
structure Refilled (holds : Snapshot → Prop) (cluster after : Cluster) : Prop where
  configured : after.configuration = cluster.configuration
  hub : ∃ queue, after.hub = cluster.hub.withQueues queue
  nodes : ∃ replica : Node → Replica,
    after.nodes = cluster.nodes.map (fun node => { node with replica := replica node }) ∧
      ∀ node ∈ cluster.nodes, holds (replica node).snapshot

theorem Refilled.every (refilled : cluster.Refilled holds after) (every : cluster.Every holds) :
    after.Every holds := by
  obtain ⟨queue, hub⟩ := refilled.hub
  obtain ⟨replica, nodes, held⟩ := refilled.nodes
  refine ⟨fun node listed => ?_, fun snapshot handed => ?_, fun entry answers => ?_⟩
  · rw [nodes] at listed
    obtain ⟨old, wasListed, rfl⟩ := List.mem_map.mp listed
    exact held old wasListed
  · rw [hub, Hub.sources_withQueues] at handed
    exact every.sources snapshot handed
  · rw [hub] at answers
    exact every.handlers entry answers

theorem Refilled.trans (first : cluster.Refilled holds after)
    (second : after.Refilled holds done) : cluster.Refilled holds done where
  configured := second.configured.trans first.configured
  hub := by
    obtain ⟨queue, hub⟩ := first.hub
    obtain ⟨queue', hub'⟩ := second.hub
    exact ⟨_, by rw [hub', hub, Hub.withQueues_withQueues]⟩
  nodes := by
    obtain ⟨replica, nodes, -⟩ := first.nodes
    obtain ⟨replica', nodes', held⟩ := second.nodes
    refine ⟨fun node => replica' { node with replica := replica node }, ?_, fun node listed => ?_⟩
    · rw [nodes', nodes, List.map_map]
      rfl
    · refine held _ ?_
      rw [nodes]
      exact List.mem_map_of_mem (f := fun node => { node with replica := replica node }) listed

/-- Queues, notices and address books do not matter. -/
theorem Every.refilled (every : cluster.Every holds)
    (configured : after.configuration = cluster.configuration)
    (hub : ∃ queue, after.hub = cluster.hub.withQueues queue)
    (nodes : after.nodes = cluster.nodes) : cluster.Refilled holds after :=
  ⟨configured, hub, Node.replica, by rw [nodes]; simp, every.nodes⟩

theorem Every.refl (every : cluster.Every holds) : cluster.Refilled holds cluster :=
  every.refilled rfl ⟨Member.queue, (Hub.withQueues_self fun _ _ => rfl).symm⟩ rfl

theorem refilled_revise {replica : Node → Replica}
    (held : ∀ node ∈ cluster.nodes, holds (replica node).snapshot) (more : List Notice) :
    cluster.Refilled holds (cluster.revise replica more) :=
  ⟨rfl, ⟨Member.queue, (Hub.withQueues_self fun _ _ => rfl).symm⟩, replica, rfl, held⟩

/-- Giving one node another replica. -/
theorem Every.modifyNode (every : cluster.Every holds) (address : Address)
    {replica : Node → Replica} (held : ∀ node ∈ cluster.nodes, holds (replica node).snapshot) :
    cluster.Refilled holds
      (cluster.modifyNode address fun node => { node with replica := replica node }) := by
  rw [modifyNode_eq]
  refine refilled_revise (fun node listed => ?_) []
  split
  · exact held node listed
  · exact every.nodes node listed

/-- Steps that keep a property keep it one after the other. -/
theorem Every.foldl {element : Type} {step : Cluster → element → Cluster}
    (refills : ∀ cluster one, Every cluster holds → cluster.Refilled holds (step cluster one))
    (elements : List element) (every : cluster.Every holds) :
    cluster.Refilled holds (elements.foldl step cluster) := by
  induction elements generalizing cluster with
  | nil => exact every.refl
  | cons head rest induction =>
      have first := refills cluster head every
      exact first.trans (induction (first.every every))

section Quiet

variable (legible : ∀ snapshot, holds snapshot → snapshot.Storable)
include legible

theorem Every.obey (every : cluster.Every holds) (address : Address) (event : Event) :
    cluster.Refilled holds (obey address cluster event) := by
  cases commands : event.peer? with
  | none =>
      rw [obey_of_none commands]
      exact every.refl
  | some peer =>
      obtain ⟨more, obeyed⟩ := obey_of_some commands address cluster
      rw [obeyed]
      refine refilled_revise (fun node listed => ?_) more
      split
      · rw [copied]
        split
        · rename_i snapshot fetched
          exact every.of_fetch legible fetched
        · exact every.nodes node listed
      · exact every.nodes node listed

theorem Every.work (every : cluster.Every holds) (address : Address) :
    cluster.Refilled holds (cluster.work address) := by
  rw [Cluster.work]
  split
  · simp only [takeEvents_eq]
    have taken : cluster.Refilled holds (cluster.withHub (cluster.hub.withQueues fun member =>
        if member.address = address then [] else member.queue)) :=
      every.refilled rfl ⟨_, rfl⟩ rfl
    refine taken.trans (Every.foldl (fun cluster event every => ?_) _ (taken.every every))
    exact every.obey legible address event
  · exact every.refl

omit legible in
theorem Every.track (every : cluster.Every holds) (address : Address) :
    cluster.Refilled holds (cluster.track address) :=
  every.refilled rfl ⟨_, congrArg Prod.snd (cluster.hub.take_eq address)⟩ rfl

/-- Everybody may read what has arrived. -/
theorem Every.settleIn (every : cluster.Every holds) (order : List Address) :
    cluster.Refilled holds (cluster.settleIn order) := by
  have reads := every.foldl (fun cluster address every => every.track address)
    (cluster.coordinators.map Coordinator.address)
  refine reads.trans (Every.foldl (fun cluster address every => ?_) order (reads.every every))
  exact every.work legible address

omit legible in
theorem Every.carryOut (every : cluster.Every holds) (me : Address)
    (plan : List (Address × Address)) : cluster.Refilled holds (carryOut me cluster plan) := by
  induction plan generalizing cluster with
  | nil => exact every.refl
  | cons head rest induction =>
      obtain ⟨more, carried⟩ := carryOut_cons me cluster head.1 head.2 rest
      rw [carried]
      have told : cluster.Refilled holds ((cluster.revise Node.replica more).withHub
          (cluster.commanded me [(head.1, head.2)])) :=
        every.refilled rfl ⟨_, rfl⟩ (by simp)
      exact told.trans (induction (told.every every))

omit legible in
theorem Every.answer (every : cluster.Every holds) {request : Request}
    (serves : ∀ replica : Replica, holds replica.snapshot →
      holds (replica.serve request).2.snapshot)
    (answerer : Answerer) : cluster.Refilled holds (cluster.answer request answerer).2 := by
  cases answerer with
  | guest address rule => exact every.refilled rfl every.refl.hub rfl
  | node address =>
      rw [Cluster.answer]
      split
      · rename_i node found
        have held := every.nodes node (mem_nodes_of_node? found).1
        exact every.modifyNode address fun _ _ => serves _ held
      · exact every.refl

omit legible in
/-- A request goes around whose serving keeps the property. -/
theorem Every.callAll (every : cluster.Every holds) (me : Address) {request : Request}
    (storable : request.Storable)
    (serves : ∀ replica : Replica, holds replica.snapshot →
      holds (replica.serve request).2.snapshot) :
    cluster.Refilled holds (cluster.callAll me request).2 := by
  rw [Cluster.callAll, Wire.transmit_of_survives (Wire.survives_request storable)]
  simp only
  generalize cluster.hub.audience me = asked
  induction asked generalizing cluster with
  | nil => exact every.refl
  | cons head rest induction =>
      rw [collect_cons_snd]
      have answered := every.answer serves head.2
      exact answered.trans (induction (answered.every every))

/-- So does a round with its repairs. -/
theorem Every.settledRound (every : cluster.Every holds) (me : Address) {request : Request}
    (storable : request.Storable)
    (serves : ∀ replica : Replica, holds replica.snapshot →
      holds (replica.serve request).2.snapshot) :
    cluster.Refilled holds (cluster.settledRound me request).2 := by
  have repaired : (cluster.settledRound me request).2 =
      ((cluster.callAll me request).2.repair me
        (cluster.ballotRound me request).1).settle := rfl
  rw [repaired, repair_eq]
  have asked := every.callAll me storable serves
  generalize Ballot.repairPlan _ _ = plan
  have told := asked.trans ((asked.every every).carryOut me plan)
  exact told.trans ((told.every every).settleIn legible _)

/-- So do both rounds of an operation. -/
theorem Every.prepared (every : cluster.Every holds) (me : Address) (operation : Operation) :
    cluster.Refilled holds (operation.prepared cluster me) := by
  have round : cluster.Refilled holds (cluster.settledRound me .fingerprint).2 :=
    every.settledRound legible me trivial fun _ held => held
  cases operation with
  | verify => exact every.refl
  | _ => exact round

theorem Every.perform (every : cluster.Every holds) (me : Address) {operation : Operation}
    (storable : (operation.request cluster.accounts).Storable)
    (serves : ∀ replica : Replica, holds replica.snapshot →
      holds (replica.serve (operation.request cluster.accounts)).2.snapshot) :
    cluster.Refilled holds (operation.perform cluster me).2 := by
  have performed := operation.perform_eq cluster me
    (Prod.mk.eta (p := (operation.prepared cluster me).settledRound me
      (operation.request cluster.accounts))).symm
  rw [performed]
  have prepared := every.prepared legible me operation
  exact prepared.trans ((prepared.every every).settledRound legible me storable serves)

end Quiet

/-! ## Replies -/

section Replies

variable {request : Request}
  (serves : ∀ replica : Replica, holds replica.snapshot → holds (replica.serve request).2.snapshot)
  (legible : ∀ replica : Replica, holds replica.snapshot →
    ∀ reply, (replica.serve request).1 = .ok reply → reply.Storable)
include serves legible

/-- Whatever is replied was replied by a replica with the property. -/
theorem Every.of_collect (every : cluster.Every holds) {asked : List (Address × Answerer)}
    (answering : ∀ entry ∈ asked, ∃ address, entry.2 = .node address) {vote : Address × Reply}
    (voted : vote ∈ (collect request asked cluster).1) :
    ∃ replica : Replica, holds replica.snapshot ∧ (replica.serve request).1 = .ok vote.2 := by
  induction asked generalizing cluster with
  | nil => simp [collect] at voted
  | cons head rest induction =>
      have others := fun entry member => answering entry (List.mem_cons_of_mem _ member)
      have later := induction ((every.answer serves head.2).every every) others
      simp only [collect] at voted
      split at voted
      · rename_i received carried
        rcases List.mem_cons.mp voted with rfl | member
        · obtain ⟨address, isNode⟩ := answering head List.mem_cons_self
          obtain ⟨sent, replied, arrived⟩ := Option.bind_eq_some_iff.mp carried
          rw [isNode, Cluster.answer] at replied
          split at replied
          · rename_i node found
            have held := every.nodes node (mem_nodes_of_node? found).1
            cases served : (node.replica.serve request).1 with
            | error overflow => simp [served, Except.toOption] at replied
            | ok reply =>
                obtain rfl : reply = sent := by simpa [served, Except.toOption] using replied
                rw [Wire.transmit_of_survives
                  (Wire.survives_reply (legible _ held reply served))] at arrived
                obtain rfl := Option.some.inj arrived
                exact ⟨node.replica, held, served⟩
          · simp at replied
        · exact later member
      · exact later voted

theorem Every.of_callAll (every : cluster.Every holds) (storable : request.Storable)
    {me : Address} {vote : Address × Reply} (voted : vote ∈ (cluster.callAll me request).1) :
    ∃ replica : Replica, holds replica.snapshot ∧ (replica.serve request).1 = .ok vote.2 := by
  rw [Cluster.callAll, Wire.transmit_of_survives (Wire.survives_request storable)] at voted
  exact every.of_collect serves legible
    (fun entry asked => every.handlers entry (Hub.mem_handlers_of_audience asked)) voted

/-- So is the reply that wins. -/
theorem Every.of_coordinate (every : cluster.Every holds) (storable : request.Storable)
    {me : Address} {reply : Reply} (won : (cluster.coordinate me request).1 = .ok reply) :
    ∃ replica : Replica, holds replica.snapshot ∧ (replica.serve request).1 = .ok reply := by
  rw [coordinate_fst] at won
  cases wins : (cluster.ballotRound me request).1.winner? with
  | none => simp [wins] at won
  | some winner =>
      rw [wins] at won
      obtain rfl := Except.ok.inj won
      obtain ⟨entry, majority, rfl⟩ := Option.map_eq_some_iff.mp wins
      obtain ⟨founder, -, -, founded, -⟩ := Ballot.winner_founded majority
      exact every.of_callAll serves legible storable ((sortByRank_perm _ _).mem_iff.mp founded)

end Replies

/-! ## Where anything happens -/

theorem every_fresh (settings : Settings) (seed : Option (Option (List UInt8)))
    (accounts : Accounts) : (fresh settings seed accounts).Every holds where
  nodes := by simp [fresh]
  sources := by simp [fresh, Hub.empty, Hub.sources]
  handlers := by simp [fresh, Hub.empty]

/-- A property of states with texts short enough to travel, which the empty state has and which
seeding keeps. -/
structure Lasting (cluster : Cluster) (holds : Snapshot → Prop) : Prop where
  legible : ∀ snapshot, holds snapshot → snapshot.Storable
  blank : holds (Replica.fresh cluster.settings.firstId cluster.settings.probeLimit).snapshot
  seeded : ∀ contents, cluster.seed = some contents → ∀ replica : Replica,
    holds replica.snapshot → holds (replica.seedFile contents).2.snapshot

theorem Lasting.of_configured (lasting : cluster.Lasting holds)
    (same : after.configuration = cluster.configuration) : after.Lasting holds := by
  obtain ⟨settings, both⟩ := Prod.mk.inj same
  obtain ⟨seed, -⟩ := Prod.mk.inj both
  exact ⟨lasting.legible, settings ▸ lasting.blank, seed ▸ lasting.seeded⟩

theorem Every.attempt (every : cluster.Every holds) (lasting : cluster.Lasting holds)
    (address : Address) : cluster.Refilled holds (cluster.attempt address).after := by
  rw [Cluster.attempt]
  split
  · split
    · rename_i snapshot fetched
      exact every.modifyNode address fun _ _ => every.of_fetch lasting.legible fetched
    · exact every.refl
  · split
    · rename_i contents node named found
      have held := every.nodes node (mem_nodes_of_node? found).1
      have seeded := lasting.seeded contents named node.replica held
      split
      · rename_i count replica entered
        rw [entered] at seeded
        exact every.modifyNode address fun _ _ => seeded
      · rename_i fault replica entered
        rw [entered] at seeded
        exact every.modifyNode address fun _ _ => seeded
    · exact every.refl

/-- A change of phase. -/
theorem Every.withPhase (every : cluster.Every holds) (address : Address) (phase : NodePhase) :
    (cluster.modifyNode address fun node => { node with phase }).Every holds := by
  refine ⟨fun node listed => ?_, every.sources, every.handlers⟩
  rcases mem_nodes_withPhase listed with ⟨old, wasListed, -, rfl⟩ | ⟨wasListed, -⟩
  · exact every.nodes old wasListed
  · exact every.nodes node wasListed

/-- Whatever happens apart from requests, a property that the empty state has and that seeding keeps
is kept. -/
theorem Happens.every (happens : cluster.Happens occurrence after)
    (unasked : occurrence.isAsked = false) (lasting : cluster.Lasting holds)
    (every : cluster.Every holds) :
    after.configuration = cluster.configuration ∧ after.Every holds := by
  cases happens with
  | attach attached =>
      refine ⟨rfl, every.nodes, fun snapshot handed => ?_, ?_⟩
      · rw [Hub.sources_attach attached] at handed
        exact every.sources snapshot (by simpa using handed)
      · obtain ⟨-, -, rfl⟩ := Hub.attach?_eq_some attached
        exact every.handlers
  | join joined =>
      obtain ⟨hub, join, rfl⟩ := joinNode?_eq_some joined
      refine ⟨rfl, fun node listed => ?_, fun snapshot handed => ?_, ?_⟩
      · rcases List.mem_append.mp listed with old | new
        · exact every.nodes node old
        · rw [List.mem_singleton.mp new]
          exact lasting.blank
      · rw [Hub.sources_join join] at handed
        exact every.sources snapshot (by simpa using handed)
      · obtain ⟨-, -, rfl⟩ := Hub.join?_eq_some join
        exact every.handlers
  | «try» address =>
      have tried := every.attempt lasting address
      exact ⟨tried.configured, tried.every every⟩
  | @enter node rpc hub listed joining first joinRpc =>
      refine ⟨rfl, every.nodes, fun snapshot handed => ?_, fun entry answers => ?_⟩
      · exact every.sources snapshot (Hub.sources_joinRpc joinRpc ▸ handed)
      · rw [hub_withHub, Hub.handlers_joinRpc joinRpc] at answers
        rcases List.mem_append.mp answers with old | new
        · exact every.handlers entry old
        · rw [List.mem_singleton.mp new]
          exact ⟨node.address, rfl⟩
  | @announce node rpc hub listed joining answers announced =>
      have kept : (cluster.withHub hub).Every holds :=
        ⟨every.nodes, fun snapshot handed => every.sources snapshot
            (Hub.sources_announce announced ▸ handed),
          fun entry answers => every.handlers entry (Hub.handlers_announce announced ▸ answers)⟩
      exact ⟨rfl, kept.withPhase _ _⟩
  | @leave address present =>
      refine ⟨rfl, every.nodes, fun snapshot handed => ?_, fun entry answers => ?_⟩
      · exact every.sources snapshot (Hub.sources_leave cluster.hub address ▸ handed)
      · exact every.handlers entry (Hub.mem_handlers_of_leave answers)
  | stop => exact ⟨rfl, every.withPhase _ _⟩
  | isolate => exact ⟨rfl, every.nodes, every.sources, every.handlers⟩
  | heal => exact ⟨rfl, every.nodes, every.sources, every.handlers⟩
  | ask me request => contradiction
  | command me target peer =>
      have told := every.carryOut me [(target, peer)]
      exact ⟨told.configured, told.every every⟩
  | track me =>
      have read := every.track me
      exact ⟨read.configured, read.every every⟩
  | work address =>
      have worked := every.work lasting.legible address
      exact ⟨worked.configured, worked.every every⟩

/-! ## Runs of operations -/

/-- What a cluster can come to, with the operations that coordinators have been asked to do, by
whomever.  An operation may be done in one go.  Or its request goes around on its own and anything
may happen before and after: the rounds of several operations overlap with each other and with
everything else that happens.  All texts that are sent are short enough to travel. -/
inductive Conducted (begun : Cluster) : List Operation → Cluster → Prop
  | begin : Conducted begun [] begun
  | perform {log : List Operation} {cluster : Cluster} (run : Conducted begun log cluster)
      (me : Address) (operation : Operation)
      (storable : (operation.request cluster.accounts).Storable) :
      Conducted begun (log ++ [operation]) (operation.perform cluster me).2
  | ask {log : List Operation} {cluster : Cluster} (run : Conducted begun log cluster)
      (me : Address) (operation : Operation)
      (storable : (operation.request cluster.accounts).Storable) :
      Conducted begun (log ++ [operation])
        (cluster.callAll me (operation.request cluster.accounts)).2
  | happen {log : List Operation} {cluster after : Cluster} {occurrence : Occurrence}
      (run : Conducted begun log cluster) (happens : cluster.Happens occurrence after)
      (unasked : occurrence.isAsked = false) : Conducted begun log after
  | sessions {log : List Operation} {cluster : Cluster} (run : Conducted begun log cluster)
      (me : Address) (change : SessionStore → SessionStore) :
      Conducted begun log (cluster.modifyCoordinator me fun coordinator =>
        { coordinator with sessions := change coordinator.sessions })

/-- Processes may come and go, and do whatever else they do, in the middle of a run. -/
theorem Conducted.shifts {begun : Cluster} {log : List Operation}
    (run : begun.Conducted log cluster) (shifts : cluster.Shifts after) :
    begun.Conducted log after :=
  shifts.keep run fun earlier happens unasked => earlier.happen happens unasked

/-- Whatever happens, a property that the empty state has and that seeding and serving keep is
kept. -/
theorem Conducted.every {begun : Cluster} {log : List Operation}
    (run : begun.Conducted log cluster) (lasting : begun.Lasting holds)
    (serves : ∀ operation ∈ log, (operation.request begun.accounts).Storable →
      ∀ replica : Replica, holds replica.snapshot →
        holds (replica.serve (operation.request begun.accounts)).2.snapshot)
    (every : begun.Every holds) :
    cluster.configuration = begun.configuration ∧ cluster.Every holds := by
  have accounts {cluster : Cluster} (same : cluster.configuration = begun.configuration) :
      cluster.accounts = begun.accounts := (Prod.mk.inj (Prod.mk.inj same).2).2
  induction run with
  | begin => exact ⟨rfl, every⟩
  | perform run me operation storable induction =>
      obtain ⟨same, kept⟩ := induction fun other member => serves other (by simp [member])
      rw [accounts same] at storable
      have performed := kept.perform lasting.legible me (accounts same ▸ storable)
        (accounts same ▸ serves operation (by simp) storable)
      exact ⟨performed.configured.trans same, performed.every kept⟩
  | ask run me operation storable induction =>
      obtain ⟨same, kept⟩ := induction fun other member => serves other (by simp [member])
      rw [accounts same] at storable ⊢
      have asked := kept.callAll me storable (serves operation (by simp) storable)
      exact ⟨asked.configured.trans same, asked.every kept⟩
  | happen run happens unasked induction =>
      obtain ⟨same, kept⟩ := induction serves
      obtain ⟨still, after⟩ := happens.every unasked (lasting.of_configured same) kept
      exact ⟨still.trans same, after⟩
  | sessions run me change induction =>
      obtain ⟨same, kept⟩ := induction serves
      exact ⟨same, kept.nodes, kept.sources, kept.handlers⟩

end Cluster

end AuctionHouse
