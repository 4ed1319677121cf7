import AuctionHouse.Proofs.Calm

/-!
# Prompt listeners and late ones

The operations that a client calls let everybody work off what has arrived when a round is over and
before anything else happens.  Nobody has to be that prompt.  But listeners can be: to work off a
queue is to take one step after the other, so such an operation is one of the ways in which the
operation can come to pass.

Another way is that a node has fetched the state that it is to copy when the operation begins, and
puts it in the place of its own when the operation is over.
-/

namespace AuctionHouse

namespace Hub

variable {source handler : Type} {hub : Hub source handler} {address : Address}

/-- Whoever reads all that has arrived may have read the oldest event before. -/
theorem take_dequeue : ((hub.dequeue address).take address).2 = (hub.take address).2 := by
  rw [take_eq, take_eq, dequeue, withQueues_withQueues]
  refine withQueues_congr fun member _ => ?_
  dsimp only
  split
  · rfl
  · rfl

theorem take_of_nil (distinct : (hub.members.map Member.address).Nodup)
    (empty : hub.queueOf address = []) : (hub.take address).2 = hub := by
  rw [take_eq]
  refine withQueues_self fun member listed => ?_
  split
  · rename_i named
    rw [queueOf, ← named, member?_eq_some distinct listed] at empty
    exact empty.symm
  · rfl

end Hub

namespace Cluster

variable {cluster after : Cluster} {address : Address}

theorem Steady.members (steady : cluster.Steady after)
    (distinct : (cluster.hub.members.map Member.address).Nodup) :
    (after.hub.members.map Member.address).Nodup := by
  obtain ⟨queue, hub⟩ := steady.hub
  rw [hub, Hub.addresses_withQueues]
  exact distinct

theorem takeEvents_snd (cluster : Cluster) (address : Address) :
    (cluster.takeEvents address).2 = cluster.withHub (cluster.hub.take address).2 :=
  rfl

theorem takeEvents_of_nil (distinct : (cluster.hub.members.map Member.address).Nodup)
    (empty : cluster.hub.queueOf address = []) : (cluster.takeEvents address).2 = cluster :=
  congrArg cluster.withHub (Hub.take_of_nil distinct empty)

theorem obey_eq_copyState {event : Event} {peer : Address} (copies : event.peer? = some peer) :
    obey address cluster event = cluster.copyState address peer := by
  cases event with
  | message sender body =>
      cases body with
      | command command other =>
          cases command
          obtain rfl := Option.some.inj copies
          rfl
      | announce rpc multicast => contradiction
  | _ => contradiction

theorem fetchSnapshot_withQueues (queue : Member StateSource → List Event) (peer : Address) :
    (cluster.withHub (cluster.hub.withQueues queue)).fetchSnapshot address peer =
      cluster.fetchSnapshot address peer :=
  fetchSnapshot_congr (Hub.sourceOf_withQueues _ _ _ _) rfl

theorem takeEvents_dequeue :
    ((cluster.withHub (cluster.hub.dequeue address)).takeEvents address).2 =
      (cluster.takeEvents address).2 :=
  congrArg cluster.withHub Hub.take_dequeue

/-- A coordinator has another address book. -/
def rebook (cluster : Cluster) (address : Address) (change : AddressBook → AddressBook) : Cluster :=
  cluster.modifyCoordinator address fun noted => { noted with book := change noted.book }

theorem track_eq (cluster : Cluster) (address : Address) :
    cluster.track address = (cluster.takeEvents address).2.rebook address
      fun book => (cluster.hub.queueOf address).foldl bookAfter book := by
  rw [track, takeEvents_eq]
  rfl

theorem rebook_self (cluster : Cluster) (address : Address) :
    (cluster.rebook address fun book => book) = cluster := by
  simp [rebook, modifyCoordinator]

theorem rebook_rebook (first second : AddressBook → AddressBook) :
    (cluster.rebook address first).rebook address second =
      cluster.rebook address fun book => second (first book) := by
  simp only [rebook, modifyCoordinator, List.map_map]
  refine congrArg (fun coordinators => { cluster with coordinators }) ?_
  refine List.map_congr_left fun coordinator _ => ?_
  by_cases same : coordinator.address = address
  · simp [same]
  · simp [same]

/-- What a node does because of an event does not depend on what else has arrived. -/
theorem obey_withQueues (queue : Member StateSource → List Event) (event : Event) :
    obey address (cluster.withHub (cluster.hub.withQueues queue)) event =
      (obey address cluster event).withHub (cluster.hub.withQueues queue) := by
  cases copies : event.peer? with
  | none => rw [obey_of_none copies, obey_of_none copies]
  | some peer =>
      rw [obey_eq_copyState copies, obey_eq_copyState copies, copyState, copyState,
        fetchSnapshot_withQueues]
      cases cluster.fetchSnapshot address peer with
      | ok snapshot => rfl
      | error fault => rfl

theorem hub_obey (event : Event) : (obey address cluster event).hub = cluster.hub := by
  cases copies : event.peer? with
  | none => rw [obey_of_none copies]
  | some peer =>
      obtain ⟨more, obeyed⟩ := obey_of_some copies address cluster
      rw [obeyed]
      rfl

end Cluster

namespace Scene

open Cluster

variable {cluster : Cluster} {fetched : Address → Option Snapshot} {address : Address}

/-! ## One event -/

/-- A node does what an event asks it to do. -/
theorem meanwhile_obey {event : Event} {rest : List Event}
    (runs : address ∈ cluster.running.map Node.address) (idle : fetched address = none)
    (waiting : cluster.hub.queueOf address = event :: rest) :
    Meanwhile ⟨cluster, fetched⟩
      ⟨obey address (cluster.withHub (cluster.hub.dequeue address)) event, fetched⟩ := by
  obtain ⟨node, isRunning, rfl⟩ := List.mem_map.mp runs
  cases copies : event.peer? with
  | none =>
      rw [obey_of_none copies]
      exact .single (.pass isRunning idle waiting copies)
  | some peer =>
      have after : (cluster.withHub (cluster.hub.dequeue node.address)).fetchSnapshot node.address
          peer = cluster.fetchSnapshot node.address peer := fetchSnapshot_withQueues _ _
      rw [obey_eq_copyState copies, copyState, after]
      cases handed : cluster.fetchSnapshot node.address peer with
      | error fault => exact .single (.miss isRunning idle waiting copies handed)
      | ok snapshot =>
          have fetches : Listens ⟨cluster, fetched⟩
              ⟨cluster.withHub (cluster.hub.dequeue node.address),
                Function.update fetched node.address (some snapshot)⟩ :=
            .fetch isRunning idle waiting copies handed
          have restores : Listens ⟨cluster.withHub (cluster.hub.dequeue node.address),
                Function.update fetched node.address (some snapshot)⟩ _ :=
            .restore (mem_running_iff.mp isRunning).1 (Function.update_self ..)
          rw [Function.update_idem, ← idle, Function.update_eq_self] at restores
          exact .tail (.single fetches) restores

/-! ## A whole queue -/

/-- A node obeys all that has arrived. -/
theorem meanwhile_foldl_obey {events : List Event}
    (members : (cluster.hub.members.map Member.address).Nodup)
    (runs : address ∈ cluster.running.map Node.address) (idle : fetched address = none)
    (waiting : cluster.hub.queueOf address = events) :
    Meanwhile ⟨cluster, fetched⟩
      ⟨events.foldl (obey address) (cluster.takeEvents address).2, fetched⟩ := by
  induction events generalizing cluster with
  | nil =>
      rw [List.foldl_nil, takeEvents_of_nil members waiting]
  | cons event rest induction =>
      have first := meanwhile_obey runs idle waiting
      have steady := first.steady
      have read : ((obey address (cluster.withHub (cluster.hub.dequeue address))
          event).takeEvents address).2 = obey address (cluster.takeEvents address).2 event := by
        rw [takeEvents_snd, takeEvents_snd, hub_obey]
        change Cluster.withHub _ ((cluster.hub.dequeue address).take address).2 = _
        rw [Hub.take_dequeue, Hub.dequeue, obey_withQueues, Hub.take_eq, obey_withQueues]
        rfl
      rw [List.foldl_cons, ← read]
      refine first.trans (induction (steady.members members) (steady.runningAddresses ▸ runs) ?_)
      rw [hub_obey]
      change (cluster.hub.dequeue address).queueOf address = rest
      rw [Hub.queueOf_dequeue, if_pos rfl, waiting, List.tail_cons]

/-- A node works off its queue. -/
theorem meanwhile_work (members : (cluster.hub.members.map Member.address).Nodup)
    (idle : fetched address = none) :
    Meanwhile ⟨cluster, fetched⟩ ⟨cluster.work address, fetched⟩ := by
  rw [work]
  split
  · rename_i serving
    obtain ⟨node, found, phase⟩ := Option.map_eq_some_iff.mp serving
    obtain ⟨listed, named⟩ := mem_nodes_of_node? found
    have runs : address ∈ cluster.running.map Node.address :=
      List.mem_map.mpr ⟨node, mem_running_iff.mpr ⟨listed, phase⟩, named⟩
    exact meanwhile_foldl_obey members runs idle (congrArg Prod.fst (takeEvents_eq _ _)).symm
  · exact .refl

/-- A coordinator works off its queue. -/
theorem meanwhile_track (members : (cluster.hub.members.map Member.address).Nodup)
    (listed : address ∈ cluster.coordinators.map Coordinator.address) :
    Meanwhile ⟨cluster, fetched⟩ ⟨cluster.track address, fetched⟩ := by
  obtain ⟨events, waiting⟩ : ∃ events, cluster.hub.queueOf address = events := ⟨_, rfl⟩
  rw [track_eq, waiting]
  induction events generalizing cluster with
  | nil =>
      have unchanged : (cluster.rebook address fun book => [].foldl bookAfter book) = cluster :=
        rebook_self cluster address
      rw [takeEvents_of_nil members waiting, unchanged]
  | cons event rest induction =>
      obtain ⟨coordinator, isListed, named⟩ := List.mem_map.mp listed
      have first : Listens ⟨cluster, fetched⟩
          ⟨(cluster.withHub (cluster.hub.dequeue address)).rebook address
            fun book => bookAfter book event, fetched⟩ := by
        rw [← named] at waiting ⊢
        exact .note isListed waiting
      have steady := first.steady
      have shorter : (cluster.hub.dequeue address).queueOf address = rest := by
        rw [Hub.queueOf_dequeue, if_pos rfl, waiting, List.tail_cons]
      have later := induction (steady.members members) (steady.coordinators ▸ listed) shorter
      have read : (((cluster.withHub (cluster.hub.dequeue address)).rebook address
          fun book => bookAfter book event).takeEvents address).2 =
            (cluster.takeEvents address).2.rebook address fun book => bookAfter book event :=
        congrArg (fun read => rebook read address fun book => bookAfter book event)
          takeEvents_dequeue
      rw [read, rebook_rebook] at later
      exact .head first later

/-! ## Everybody -/

/-- Coordinators work off their queues, one after the other. -/
theorem meanwhile_foldl_track {addresses : List Address}
    (members : (cluster.hub.members.map Member.address).Nodup)
    (listed : ∀ address ∈ addresses, address ∈ cluster.coordinators.map Coordinator.address) :
    Meanwhile ⟨cluster, fetched⟩ ⟨addresses.foldl track cluster, fetched⟩ := by
  induction addresses generalizing cluster with
  | nil => exact .refl
  | cons head rest induction =>
      have first : Meanwhile ⟨cluster, fetched⟩ ⟨cluster.track head, fetched⟩ :=
        meanwhile_track members (listed head List.mem_cons_self)
      have steady := first.steady
      refine first.trans (induction (steady.members members) fun address isLater => ?_)
      rw [steady.coordinators]
      exact listed address (List.mem_cons_of_mem _ isLater)

/-- Nodes work off their queues, one after the other. -/
theorem meanwhile_foldl_work {addresses : List Address}
    (members : (cluster.hub.members.map Member.address).Nodup)
    (idle : ∀ address, fetched address = none) :
    Meanwhile ⟨cluster, fetched⟩ ⟨addresses.foldl work cluster, fetched⟩ := by
  induction addresses generalizing cluster with
  | nil => exact .refl
  | cons head rest induction =>
      have first : Meanwhile ⟨cluster, fetched⟩ ⟨cluster.work head, fetched⟩ :=
        meanwhile_work members (idle head)
      exact first.trans (induction (first.steady.members members))

/-- Everybody may work off what has arrived before anything else happens. -/
theorem meanwhile_settle (members : (cluster.hub.members.map Member.address).Nodup) :
    (still cluster).Meanwhile (still cluster.settle) := by
  have tracks : (still cluster).Meanwhile
      (still ((cluster.coordinators.map Coordinator.address).foldl track cluster)) :=
    meanwhile_foldl_track members fun _ listed => listed
  exact tracks.trans (meanwhile_foldl_work (tracks.steady.members members) fun _ => rfl)

/-- The operations that a client calls are operations during which listeners are prompt. -/
theorem Performs.of_perform (me : Address) (operation : Operation)
    (members : (cluster.hub.members.map Member.address).Nodup) :
    ∃ log ballot, Performs me operation (still cluster) (still (operation.prepared cluster me)) log
        ballot (still (operation.perform cluster me).2) ∧
      (operation.perform cluster me).1 = operation.gives ballot := by
  obtain ⟨checks, check⟩ := Round.of_ballotRound me .fingerprint (still cluster)
  have prepares :
      Prepares me (still cluster) operation (still (operation.prepared cluster me)) := by
    have settles := meanwhile_settle (check.steady.members members)
    cases operation with
    | verify => exact .verify
    | _ => exact .check (by simp) check settles
  obtain ⟨log, round⟩ := Round.of_ballotRound me (operation.request cluster.accounts)
    (still (operation.prepared cluster me))
  have settles := meanwhile_settle (round.steady.members (prepares.steady.members members))
  rw [operation.perform_eq cluster me rfl]
  exact ⟨log, _, ⟨prepares, _, round, settles⟩, congrArg operation.outcome (settledRound_fst _ _ _)⟩

end Scene

/-! ## A state that comes late -/

namespace Cluster

/-- Some nodes have come to the oldest events in their queues. -/
def heeding (cluster : Cluster) (addresses : List Address) : Cluster :=
  addresses.foldl (fun heeded address => heeded.withHub (heeded.hub.dequeue address)) cluster

/-- Some nodes have put a state in the place of their own. -/
def restoring (cluster : Cluster) (addresses : List Address) (snapshot : Snapshot) : Cluster :=
  addresses.foldl (fun restored address => restored.modifyNode address fun node =>
    { node with replica := node.replica.restore snapshot }) cluster

theorem restoring_singleton (cluster : Cluster) (address : Address) (snapshot : Snapshot) :
    cluster.restoring [address] snapshot = cluster.revise
      (fun node => if node.address = address then node.replica.restore snapshot else node.replica)
      [] :=
  cluster.modifyNode_eq address fun node => node.replica.restore snapshot

/-- The oldest event in the queue of a serving node is a command to copy a state, and this is the
state that is handed over. -/
structure Due (cluster : Cluster) (address : Address) (snapshot : Snapshot) : Prop where
  runs : address ∈ cluster.running.map Node.address
  told : ∃ event rest peer, cluster.hub.queueOf address = event :: rest ∧
    event.peer? = some peer ∧ cluster.fetchSnapshot address peer = .ok snapshot

/-- Nobody loses a command because another one comes to a command. -/
theorem Due.dequeue {cluster : Cluster} {address other : Address} {snapshot : Snapshot}
    (due : cluster.Due address snapshot) (differ : address ≠ other) :
    (cluster.withHub (cluster.hub.dequeue other)).Due address snapshot := by
  obtain ⟨runs, event, rest, peer, waiting, told, handed⟩ := due
  refine ⟨runs, event, rest, peer, ?_, told, (fetchSnapshot_withQueues _ _).trans handed⟩
  change (cluster.hub.dequeue other).queueOf address = _
  rw [Hub.queueOf_dequeue, if_neg differ, waiting]

/-- Whether a state is handed over can be decided by comparing states. -/
theorem fetchSnapshot_eq_ok {cluster : Cluster} {address peer : Address} {snapshot : Snapshot}
    (handed : (cluster.fetchSnapshot address peer).toOption = some snapshot) :
    cluster.fetchSnapshot address peer = .ok snapshot := by
  cases result : cluster.fetchSnapshot address peer with
  | error fault => simp [result, Except.toOption] at handed
  | ok given =>
      rw [result] at handed
      exact congrArg Except.ok (Option.some.inj handed)

end Cluster

namespace Scene

open Cluster

variable {cluster : Cluster} {fetched : Address → Option Snapshot} {addresses : List Address}
  {snapshot : Snapshot}

/-- Whoever comes first and those that come later all have something in the end. -/
private theorem update_first (fetched : Address → Option Snapshot) (first : Address)
    (later : List Address) (something : Option Snapshot) :
    (fun address =>
        if address ∈ later then something else Function.update fetched first something address) =
      fun address => if address ∈ first :: later then something else fetched address := by
  funext address
  by_cases isFirst : address = first
  · simp [isFirst]
  · simp [isFirst]

theorem meanwhile_heeding (distinct : addresses.Nodup)
    (due : ∀ address ∈ addresses, cluster.Due address snapshot)
    (idle : ∀ address ∈ addresses, fetched address = none) :
    Meanwhile ⟨cluster, fetched⟩ ⟨cluster.heeding addresses,
      fun address => if address ∈ addresses then some snapshot else fetched address⟩ := by
  induction addresses generalizing cluster fetched with
  | nil => simpa [heeding] using .refl
  | cons first later induction =>
      obtain ⟨new, distinct⟩ := List.nodup_cons.mp distinct
      have differ {address : Address} (isLater : address ∈ later) : address ≠ first :=
        fun same => new (same ▸ isLater)
      obtain ⟨runs, event, others, peer, waiting, told, handed⟩ := due first List.mem_cons_self
      have fetches : Listens ⟨cluster, fetched⟩ _ :=
        .fetch_of_mem runs (idle first List.mem_cons_self) waiting told handed
      rw [← update_first]
      refine .head fetches
        (induction distinct (fun address isLater => ?_) fun address isLater => ?_)
      · exact (due address (List.mem_cons_of_mem _ isLater)).dequeue (differ isLater)
      · rw [Function.update_of_ne (differ isLater)]
        exact idle address (List.mem_cons_of_mem _ isLater)

theorem meanwhile_restoring (distinct : addresses.Nodup)
    (listed : ∀ address ∈ addresses, address ∈ cluster.nodes.map Node.address)
    (held : ∀ address ∈ addresses, fetched address = some snapshot) :
    Meanwhile ⟨cluster, fetched⟩ ⟨cluster.restoring addresses snapshot,
      fun address => if address ∈ addresses then none else fetched address⟩ := by
  induction addresses generalizing cluster fetched with
  | nil => simpa [restoring] using .refl
  | cons first later induction =>
      obtain ⟨new, distinct⟩ := List.nodup_cons.mp distinct
      have restores : Listens ⟨cluster, fetched⟩ _ :=
        .restore_of_mem (listed first List.mem_cons_self) (held first List.mem_cons_self)
      rw [← update_first]
      refine .head restores
        (induction distinct (fun address isLater => ?_) fun address isLater => ?_)
      · exact restores.steady.addresses ▸ listed address (List.mem_cons_of_mem _ isLater)
      · have differ : address ≠ first := fun same => new (same ▸ isLater)
        rw [Function.update_of_ne differ]
        exact held address (List.mem_cons_of_mem _ isLater)

/-- Nodes that are told to copy a state may fetch it before an operation and put it in the place of
their own after the operation, during which nobody listens. -/
theorem Performs.of_late (me : Address) (operation : Operation) (distinct : addresses.Nodup)
    (due : ∀ address ∈ addresses, cluster.Due address snapshot) :
    ∃ begun before log after, (still cluster).Meanwhile begun ∧
      Performs me operation begun before log
        (operation.polled (cluster.heeding addresses) me).1 after ∧
      after.Meanwhile (still
        ((operation.polled (cluster.heeding addresses) me).2.restoring addresses snapshot)) := by
  obtain ⟨held, isHeld⟩ : ∃ held : Address → Option Snapshot,
      held = fun address => if address ∈ addresses then some snapshot else none := ⟨_, rfl⟩
  have heeds : (still cluster).Meanwhile ⟨cluster.heeding addresses, held⟩ :=
    isHeld ▸ meanwhile_heeding distinct due fun _ _ => rfl
  obtain ⟨log, performs⟩ :=
    Performs.of_polled me operation ⟨cluster.heeding addresses, held⟩
  have steady := heeds.steady.trans performs.steady
  have listed (address : Address) (isLate : address ∈ addresses) :
      address ∈ (operation.polled (cluster.heeding addresses) me).2.nodes.map Node.address := by
    obtain ⟨node, isRunning, named⟩ := List.mem_map.mp (due address isLate).runs
    exact steady.addresses ▸ List.mem_map.mpr ⟨node, (mem_running_iff.mp isRunning).1, named⟩
  have late (address : Address) (isLate : address ∈ addresses) : held address = some snapshot := by
    rw [isHeld]
    exact if_pos isLate
  have restores := meanwhile_restoring distinct listed late
  have rested : (fun address => if address ∈ addresses then none else held address) =
      fun _ => none := by
    funext address
    by_cases isLate : address ∈ addresses
    · simp [isLate]
    · simp [isLate, isHeld]
  rw [rested] at restores
  exact ⟨_, _, log, _, heeds, performs, restores⟩

end Scene

end AuctionHouse
