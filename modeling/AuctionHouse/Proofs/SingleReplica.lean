import AuctionHouse.Proofs.Departures
import AuctionHouse.Proofs.Newcomers
import AuctionHouse.Proofs.Promptness

/-!
# A cluster behaves like one replica

Nodes that come and go while nobody is cut off all hold the same state, whatever their listeners do
and whenever they do it: the one of a single replica that serves the same requests.  Whatever that
replica would reply is what a client gets, and where it would not reply there is nothing to get.
The single replica begins anew, empty or from the seed file, whenever a node starts while no other
one serves.

There is one thing to wait for.  After an outcome that differs from itself nodes are told to copy
what they hold already, and whoever copies it while the next request goes around forgets the
request.
-/

namespace AuctionHouse

/-- What can happen while nothing goes wrong. -/
inductive Step where
  /-- A node starts. -/
  | start
  /-- A node stops. -/
  | stop
  /-- The coordinator does what it is asked to do. -/
  | perform (operation : Operation)

/-- A single replica that stands for some nodes. -/
structure Lone where
  /-- How many nodes it stands for. -/
  count : Nat
  /-- The replica. -/
  replica : Replica
  /-- What the operations on it gave so far. -/
  outcomes : List Outcome

namespace Lone

/-- The reply to a request, if there is a node for which the replica stands. -/
def answer (lone : Lone) (request : Request) : Except Fault Reply :=
  if lone.count = 0 then .error .noReplies
  else (lone.replica.serve request).1.mapError fun _ => .noReplies

/-- One step of a single replica.  It begins anew when the first node starts, and takes notice of a
request only while there is a node. -/
def after (accounts : Accounts) (first : Replica) (lone : Lone) : Step → Lone
  | .start =>
    { lone with
      count := lone.count + 1
      replica := if lone.count = 0 then first else lone.replica }
  | .stop => { lone with count := lone.count - 1 }
  | .perform operation =>
    { lone with
      replica :=
        if lone.count = 0 then lone.replica
        else (lone.replica.serve (operation.request accounts)).2
      outcomes :=
        lone.outcomes ++ [operation.outcome (lone.answer (operation.request accounts))] }

/-- A single replica after some steps, beginning with no node. -/
def through (accounts : Accounts) (first : Replica) (steps : List Step) : Lone :=
  steps.foldl (Lone.after accounts first) { count := 0, replica := first, outcomes := [] }

theorem through_append (accounts : Accounts) (first : Replica) (steps : List Step) (step : Step) :
    through accounts first (steps ++ [step]) =
      (through accounts first steps).after accounts first step := by
  rw [through, List.foldl_append]
  rfl

end Lone

namespace Scene

open Cluster

/-! ## Runs -/

/-- A node leaves and obeys no more commands. -/
def stop (scene : Scene) (address : Address) : Scene :=
  { scene with
    cluster := (scene.cluster.withHub (scene.cluster.hub.leave address)).modifyNode address
      fun node => { node with phase := .stopped } }

/-- What a scene can come to, from one with a coordinator that fronts nobody, by some steps while
listeners take theirs, and what the operations among these steps gave.  After an outcome that
differs from itself the next operation waits until nobody copies anything any more.  All texts that
are sent are short enough to travel. -/
inductive Run (begun : Scene) (me : Address) : List Step → List Outcome → Scene → Prop
  | begin : Run begun me [] [] begun
  | listen {steps : List Step} {outcomes : List Outcome} {scene after : Scene}
      (run : Run begun me steps outcomes scene) (listens : scene.Listens after) :
      Run begun me steps outcomes after
  | start {steps : List Step} {outcomes : List Outcome} {scene after : Scene}
      (run : Run begun me steps outcomes scene) (starts : scene.Starts after) :
      Run begun me (steps ++ [.start]) outcomes after
  | stop {steps : List Step} {outcomes : List Outcome} {scene : Scene} {node : Node}
      (run : Run begun me steps outcomes scene) (isRunning : node ∈ scene.cluster.running) :
      Run begun me (steps ++ [.stop]) outcomes (scene.stop node.address)
  | perform {steps : List Step} {outcomes : List Outcome} {scene before after : Scene}
      {services : List Service} {ballot : Ballot Reply} (run : Run begun me steps outcomes scene)
      (operation : Operation) (settled : scene.Calm ∨ Outcome.LastAgrees outcomes)
      (storable : (operation.request scene.cluster.accounts).Storable)
      (table : operation = .listings →
        ∀ node ∈ scene.cluster.running, Text.Storable node.replica.listings)
      (performs : Performs me operation scene before services ballot after) :
      Run begun me (steps ++ [.perform operation]) (outcomes ++ [operation.gives ballot]) after

/-- Everybody is in place, and the nodes that serve agree and are as many copies of a single replica
as that one stands for.  Nobody copies anything, unless the last outcome differs from itself. -/
structure Mirrors (scene : Scene) (me : Address) (lone : Lone) : Prop where
  placed : scene.cluster.Placed me
  agreed : scene.Agreed lone.replica []
  acquainted : scene.cluster.Acquainted (· ∈ scene.cluster.hub.members.map Member.address)
  quiet : scene.Calm ∨ ¬Outcome.LastAgrees lone.outcomes
  counted : scene.cluster.running.length = lone.count

variable {scene after : Scene} {me : Address} {lone : Lone}

theorem Mirrors.copies (mirrors : scene.Mirrors me lone) :
    scene.cluster.running.map Node.replica = List.replicate lone.count lone.replica := by
  refine List.eq_replicate_iff.mpr ⟨by rw [List.length_map, mirrors.counted], fun copy isCopy => ?_⟩
  obtain ⟨node, isRunning, rfl⟩ := List.mem_map.mp isCopy
  exact mirrors.agreed.unanimous node isRunning

theorem Mirrors.deserted_iff (mirrors : scene.Mirrors me lone) :
    scene.cluster.running = [] ↔ lone.count = 0 := by
  rw [← mirrors.counted, List.length_eq_zero_iff]

/-! ### Each step -/

/-- The single replica has nothing to do with listeners. -/
theorem Mirrors.listens (mirrors : scene.Mirrors me lone) (listens : scene.Listens after) :
    after.Mirrors me lone := by
  have steady := listens.steady
  refine ⟨mirrors.placed.steady steady, mirrors.agreed.listens listens, ?_,
    mirrors.quiet.imp_left fun calm => (calm.listens listens).1, ?_⟩
  · obtain ⟨queue, hub⟩ := steady.hub
    rw [hub, Hub.addresses_withQueues]
    exact listens.acquainted mirrors.acquainted
  · have counted := congrArg List.length steady.runningAddresses
    rw [List.length_map, List.length_map] at counted
    exact counted.trans mirrors.counted

/-- It follows when a node starts. -/
theorem Mirrors.start (mirrors : scene.Mirrors me lone) (accounts : Accounts)
    (texts : (Replica.first scene.cluster.settings scene.cluster.seed).snapshot.Storable)
    (starts : scene.Starts after) :
    after.Mirrors me
        (lone.after accounts (.first scene.cluster.settings scene.cluster.seed) .start) ∧
      after.cluster.configuration = scene.cluster.configuration := by
  obtain ⟨placed, agreed, acquainted, calm, configured, counted⟩ :=
    starts.follows mirrors.placed mirrors.agreed mirrors.acquainted texts
  have heir : scene.cluster.heir =
      if lone.count = 0 then .first scene.cluster.settings scene.cluster.seed
      else lone.replica := by
    rw [← if_congr mirrors.deserted_iff rfl rfl, Cluster.heir]
    cases runs : scene.cluster.running with
    | nil => rfl
    | cons node rest => exact mirrors.agreed.unanimous node (by simp [runs])
  rw [heir] at agreed
  refine ⟨⟨placed, agreed, acquainted, mirrors.quiet.imp_left calm, ?_⟩, configured⟩
  rw [counted, mirrors.counted]
  rfl

section Stopping

variable {replica : Replica} {node : Node} {rpc : Address} {views : List Event}
  (leaves : scene.cluster.hub.leave node.address =
    (scene.cluster.hub.dismissed node.address rpc).withQueues (Hub.heard views))

theorem running_stop (scene : Scene) (node : Node) :
    (scene.stop node.address).cluster.running =
      scene.cluster.running.filter fun other => other.address ≠ node.address :=
  running_stopped _ node.address

theorem mem_running_of_stop {address : Address}
    (runs : address ∈ (scene.stop node.address).cluster.running.map Node.address) :
    address ∈ scene.cluster.running.map Node.address := by
  rw [running_stop] at runs
  exact (List.filter_sublist.map Node.address).subset runs

include leaves

/-- Those who stay still agree. -/
theorem Agreed.stop (agreed : scene.Agreed replica []) :
    (scene.stop node.address).Agreed replica [] := by
  have nodes : (scene.stop node.address).cluster.nodes.map Node.address =
      scene.cluster.nodes.map Node.address := addresses_withPhase _ _ _
  constructor
  case nodes => exact nodes ▸ agreed.nodes
  case unanimous =>
    intro other isRunning
    rw [running_stop] at isRunning
    exact agreed.unanimous other (List.mem_of_mem_filter isRunning)
  case storable => exact agreed.storable
  case handed =>
    intro member isMember subscribed state gives
    change member ∈ (scene.cluster.hub.leave node.address).members at isMember
    rw [leaves] at isMember
    obtain ⟨stays, isStaying, rfl⟩ := List.mem_map.mp isMember
    obtain ⟨old, wasMember, rfl⟩ := List.mem_map.mp isStaying
    by_cases leaving : old.address = node.address
    · simp [leaving] at subscribed
    · simp only [if_neg leaving] at subscribed gives ⊢
      obtain ⟨isNode, serves⟩ := agreed.handed old wasMember subscribed state gives
      obtain ⟨other, isOther, same⟩ := List.mem_map.mp (serves.resolve_right (by simp))
      rw [running_stop]
      exact ⟨isNode, .inl (List.mem_map.mpr
        ⟨other, List.mem_filter.mpr ⟨isOther, by simpa [same]⟩, same⟩)⟩
  case told => simp
  case fetched =>
    intro address snapshot isHeld
    obtain ⟨isNode, same⟩ := agreed.fetched address snapshot isHeld
    exact ⟨nodes ▸ isNode, fun isRunning => same (mem_running_of_stop isRunning)⟩
  case waiting => simp

variable (unnamed : ∀ event ∈ views, event.named? = none)
include unnamed

/-- Nobody gets to know anybody. -/
theorem acquainted_stop {known : Address → Prop} (acquainted : scene.cluster.Acquainted known) :
    (scene.stop node.address).cluster.Acquainted known := by
  refine ⟨?_, acquainted.noted⟩
  change (scene.cluster.hub.leave node.address).Mentions known
  rw [leaves]
  refine (acquainted.heard.dismissed _ _).withQueues fun member _ event waits => ?_
  rcases Hub.mem_of_heard waits with before | isView
  · exact .inl before
  · exact .inr (by simp [unnamed event isView])

/-- Nobody copies anything because of it. -/
theorem Calm.stop (calm : scene.Calm)
    (distinct : (scene.cluster.hub.members.map Member.address).Nodup) :
    (scene.stop node.address).Calm where
  fetched := calm.fetched
  untold := by
    intro address isRunning
    have quiet := uncommanded_of_peersOf distinct
      (calm.untold address (mem_running_of_stop isRunning))
    refine peersOf_eq_nil ?_
    change (scene.cluster.hub.leave node.address).Uncommanded address
    rw [leaves]
    intro member isMember named
    obtain ⟨stays, isStaying, rfl⟩ := List.mem_map.mp isMember
    obtain ⟨old, wasMember, rfl⟩ := List.mem_map.mp isStaying
    simp only [apply_ite Member.address, ite_self] at named
    refine List.filterMap_eq_nil_iff.mpr fun event waits => ?_
    rcases Hub.mem_of_heard waits with before | isView
    · simp only [apply_ite Member.queue, ite_self] at before
      exact List.filterMap_eq_nil_iff.mp (quiet old wasMember named) event before
    · refine Option.eq_none_iff_forall_ne_some.mpr fun peer copies => ?_
      simpa [unnamed event isView] using Event.named?_of_peer? copies

end Stopping

/-- It follows when a node stops. -/
theorem Mirrors.stop (mirrors : scene.Mirrors me lone) (accounts : Accounts) (first : Replica)
    {node : Node} (isRunning : node ∈ scene.cluster.running) :
    (scene.stop node.address).Mirrors me (lone.after accounts first .stop) ∧
      (scene.stop node.address).cluster.configuration = scene.cluster.configuration := by
  obtain ⟨placed, agreed, acquainted, quiet, counted⟩ := mirrors
  obtain ⟨rpc, listed, behind, leaves⟩ := placed.exists_leave_eq isRunning
  have unnamed : ∀ event ∈ [Event.multicastView (scene.cluster.hub.multicastView.left node.address),
      .rpcView (scene.cluster.hub.rpcView.left rpc)], event.named? = none := by
    simp [Event.named?]
  have addresses : (scene.stop node.address).cluster.hub.members.map Member.address =
      scene.cluster.hub.members.map Member.address := by
    change (scene.cluster.hub.leave node.address).members.map Member.address = _
    rw [leaves, Hub.addresses_withQueues, Hub.addresses_dismissed]
  have left := placed.dismissed isRunning listed behind
    (Hub.heard [.multicastView (scene.cluster.hub.multicastView.left node.address),
      .rpcView (scene.cluster.hub.rpcView.left rpc)])
  rw [← leaves] at left
  refine ⟨⟨left, agreed.stop leaves, addresses ▸ acquainted_stop leaves unnamed acquainted,
    quiet.imp_left fun calm => calm.stop leaves unnamed placed.members, ?_⟩, rfl⟩
  have rest : (scene.stop node.address).cluster.running.map Node.address =
      (scene.cluster.running.map Node.address).erase node.address := by
    have distinct : (scene.cluster.running.map Node.address).Nodup :=
      placed.nodes.sublist (List.filter_sublist.map Node.address)
    rw [running_stop, distinct.erase_eq_filter, List.filter_map]
    refine congrArg (List.map Node.address) (List.filter_congr fun other _ => ?_)
    simp [bne, beq_eq_decide]
  have length := congrArg List.length rest
  rw [List.length_map, List.length_erase_of_mem (List.mem_map_of_mem isRunning), List.length_map,
    counted] at length
  exact length

/-- It follows an operation. -/
theorem Mirrors.performs (mirrors : scene.Mirrors me lone) (first : Replica)
    {operation : Operation} {before : Scene} {services : List Service} {ballot : Ballot Reply}
    (settled : scene.Calm ∨ Outcome.LastAgrees lone.outcomes)
    (storable : (operation.request scene.cluster.accounts).Storable)
    (table : operation = .listings →
      ∀ node ∈ scene.cluster.running, Text.Storable node.replica.listings)
    (performs : Performs me operation scene before services ballot after) :
    operation.gives ballot =
        operation.outcome (lone.answer (operation.request scene.cluster.accounts)) ∧
      after.Mirrors me (lone.after scene.cluster.accounts first (.perform operation)) ∧
      after.cluster.configuration = scene.cluster.configuration := by
  obtain ⟨placed, agreed, acquainted, quiet, counted⟩ := mirrors
  have calm : scene.Calm := quiet.elim (fun calm => calm) settled.resolve_right
  have shown : operation = .listings → scene.cluster.running ≠ [] →
      Text.Storable lone.replica.listings := by
    intro isTable inhabited
    obtain ⟨node, isRunning⟩ := List.exists_mem_of_ne_nil _ inhabited
    exact agreed.unanimous node isRunning ▸ table isTable node isRunning
  have steady := performs.steady
  obtain ⟨gives, agreed', quiet'⟩ :=
    agreed.performs calm placed.toArranged placed.connected storable shown performs
  have answers : scene.cluster.answerOf lone.replica (operation.request scene.cluster.accounts) =
      lone.answer (operation.request scene.cluster.accounts) := by
    rw [answerOf, Lone.answer, ← counted]
    simp only [List.length_eq_zero_iff]
  have counted' : after.cluster.running.length = lone.count := by
    have same := congrArg List.length steady.runningAddresses
    rw [List.length_map, List.length_map] at same
    exact same.trans counted
  rw [answers] at gives
  refine ⟨gives, ⟨placed.steady steady, ?_, ?_, ?_, counted'⟩, steady.configured⟩
  · rw [Lone.after]
    dsimp only
    split
    · rename_i nobody
      exact agreed'.of_deserted (List.length_eq_zero_iff.mp (counted'.trans nobody)) agreed.storable
    · exact agreed'
  · obtain ⟨queue, hub⟩ := steady.hub
    rw [hub, Hub.addresses_withQueues]
    exact performs.acquainted acquainted
  · rw [gives] at quiet'
    exact quiet'.imp_right fun differs => by
      rwa [Lone.after, Outcome.lastAgrees_append]

/-! ### All steps -/

variable {settings : Settings} {seed : Option (Option (List UInt8))} {accounts : Accounts}
  {steps : List Step} {outcomes : List Outcome}

theorem mirrors_fronted (texts : (Replica.first settings seed).snapshot.Storable) :
    (still (fronted settings seed accounts)).Mirrors ⟨.multicast, 1⟩
      (.through accounts (.first settings seed) []) where
  placed := (undisturbed_fronted settings seed accounts).toPlaced
  agreed := {
    nodes := List.nodup_nil
    unanimous := by simp [still, Unanimous, running, fronted, fresh]
    storable := texts
    handed := by simp [still, fronted]
    told := by simp
    fetched := by simp [still]
    waiting := by simp }
  acquainted := ⟨by simp [still, fronted, Hub.Mentions],
    by simp [still, fronted, fresh, AddressBook.find?, AddressBook.empty]⟩
  quiet := .inl ⟨fun _ => rfl, by simp [still, running, fronted, fresh]⟩
  counted := rfl

/-- The single replica follows a whole run. -/
theorem Run.mirrors (texts : (Replica.first settings seed).snapshot.Storable)
    (run : (still (fronted settings seed accounts)).Run ⟨.multicast, 1⟩ steps outcomes scene) :
    scene.Mirrors ⟨.multicast, 1⟩ (.through accounts (.first settings seed) steps) ∧
      scene.cluster.configuration = (settings, seed, accounts) ∧
      outcomes = (Lone.through accounts (.first settings seed) steps).outcomes := by
  induction run with
  | begin => exact ⟨mirrors_fronted texts, rfl, rfl⟩
  | listen run listens induction =>
      obtain ⟨mirrors, configured, given⟩ := induction
      exact ⟨mirrors.listens listens, listens.steady.configured.trans configured, given⟩
  | start run starts induction =>
      obtain ⟨mirrors, configured, given⟩ := induction
      obtain ⟨rfl, rfl, rfl⟩ : _ ∧ _ ∧ _ := by simpa [configuration] using configured
      obtain ⟨mirrors', configured'⟩ := mirrors.start _ texts starts
      rw [Lone.through_append]
      exact ⟨mirrors', configured', given⟩
  | stop run isRunning induction =>
      obtain ⟨mirrors, configured, given⟩ := induction
      obtain ⟨mirrors', configured'⟩ := mirrors.stop accounts (.first settings seed) isRunning
      rw [Lone.through_append]
      exact ⟨mirrors', configured'.trans configured, given⟩
  | perform run operation settled storable table performs induction =>
      obtain ⟨mirrors, configured, given⟩ := induction
      obtain ⟨rfl, rfl, rfl⟩ : _ ∧ _ ∧ _ := by simpa [configuration] using configured
      obtain ⟨gives, mirrors', configured'⟩ :=
        mirrors.performs (.first _ _) (given ▸ settled) storable table performs
      rw [Lone.through_append]
      exact ⟨mirrors', configured', by rw [gives, given]; rfl⟩

theorem Run.meanwhile {begun : Scene} (run : begun.Run me steps outcomes scene)
    (meanwhile : scene.Meanwhile after) : begun.Run me steps outcomes after :=
  meanwhile.keep _ (fun run listens => run.listen listens) run

/-- When no listener takes a step during an operation. -/
theorem Run.poll {begun : Scene} {cluster : Cluster}
    (run : begun.Run me steps outcomes (still cluster)) (operation : Operation)
    (settled : (still cluster).Calm ∨ Outcome.LastAgrees outcomes)
    (storable : (operation.request cluster.accounts).Storable) (noTable : operation ≠ .listings) :
    begun.Run me (steps ++ [.perform operation])
      (outcomes ++ [operation.gives (operation.polled cluster me).1])
      (still (operation.polled cluster me).2) := by
  obtain ⟨services, performs⟩ := Performs.of_polled me operation (still cluster)
  exact run.perform operation settled storable (fun isTable => absurd isTable noTable) performs

/-! ### Prompt listeners -/

section Prompt

variable {cluster : Cluster} (texts : (Replica.first settings seed).snapshot.Storable)
  (run : (still (fronted settings seed accounts)).Run ⟨.multicast, 1⟩ steps outcomes
    (still cluster))
include texts run

theorem Run.members : (cluster.hub.members.map Member.address).Nodup :=
  (run.mirrors texts).1.placed.members

/-- A node starts and everybody takes note of it. -/
theorem Run.startNode {pair : Address × Address} (started : cluster.startNode.1 = .ok pair) :
    (still (fronted settings seed accounts)).Run ⟨.multicast, 1⟩ (steps ++ [.start]) outcomes
      (still cluster.startNode.2) := by
  have start : cluster.startNode = (.ok pair, cluster.startNode.2) := Prod.ext started rfl
  obtain ⟨serving, starts, settles⟩ := Starts.of_startNode start
  have run' := run.start starts
  rw [settles]
  exact run'.meanwhile (meanwhile_settle (run'.members texts))

/-- An operation is performed while everybody listens. -/
theorem Run.perform_prompt (operation : Operation)
    (settled : (still cluster).Calm ∨ Outcome.LastAgrees outcomes)
    (storable : (operation.request cluster.accounts).Storable) (noTable : operation ≠ .listings) :
    (still (fronted settings seed accounts)).Run ⟨.multicast, 1⟩ (steps ++ [.perform operation])
      (outcomes ++ [(operation.perform cluster ⟨.multicast, 1⟩).1])
      (still (operation.perform cluster ⟨.multicast, 1⟩).2) := by
  obtain ⟨services, ballot, performs, gives⟩ :=
    Performs.of_perform ⟨.multicast, 1⟩ operation (run.members texts)
  rw [gives]
  exact run.perform operation settled storable (fun isTable => absurd isTable noTable) performs

end Prompt

/-! ### A new beginning -/

/-- A coordinator that fronts nobody. -/
def alone : Cluster := fronted .standard none (.table [])

theorem storable_first : (Replica.first .standard none).snapshot.Storable := by
  simp [Snapshot.Storable, Replica.first, Replica.fresh, Catalogue.empty, Replica.snapshot]

/-- The opening of an auction. -/
def lampOffer : Operation := .create "Ann" ⟨0⟩ "Lamp" ⟨0⟩

theorem storable_lampOffer (cluster : Cluster) :
    (lampOffer.request cluster.accounts).Storable :=
  ⟨by decide, by decide, by decide, by decide⟩

/-- A node has started. -/
def staffed : Cluster := alone.startNode.2

/-- The auction has been opened on it. -/
def lit : Cluster := (lampOffer.perform staffed ⟨.multicast, 1⟩).2

theorem run_staffed : (still alone).Run ⟨.multicast, 1⟩ [.start] [] (still staffed) := by
  have begun : (still alone).Run ⟨.multicast, 1⟩ [] [] (still alone) := .begin
  have starts : alone.startNode.1 = .ok (⟨.multicast, 2⟩, ⟨.rpc, 3⟩) := by decide +kernel
  exact begun.startNode storable_first starts

/-- An auction is opened on a node that then stops; after that another one starts. -/
def renewal : List Step := [.start, .perform lampOffer, .stop, .start]

/-- The new beginning can happen. -/
theorem exists_run_renewal :
    ∃ outcomes scene, (still alone).Run ⟨.multicast, 1⟩ renewal outcomes scene := by
  have opened := run_staffed.perform_prompt storable_first lampOffer
    (.inr (by simp [Outcome.LastAgrees])) (storable_lampOffer _) (by simp [lampOffer])
  rw [← lit] at opened
  have runs : ⟨.multicast, 2⟩ ∈ lit.running.map Node.address := by decide +kernel
  obtain ⟨node, isRunning, named⟩ := List.mem_map.mp runs
  have stopped := opened.stop isRunning
  rw [named] at stopped
  have restarts : ((still lit).stop ⟨.multicast, 2⟩).cluster.startNode.1 =
      .ok (⟨.multicast, 4⟩, ⟨.rpc, 5⟩) := by
    decide +kernel
  exact ⟨_, _, stopped.startNode storable_first restarts⟩

/-! ### A state that comes late -/

/-- The opening of an auction whose price is no number. -/
def oddOffer : Operation := .create "Ann" ⟨0x7ff8000000000000⟩ "Lamp" ⟨0⟩

/-- Its closing. -/
def oddClosing : Operation := .close "Ann" 1000

/-- A coordinator and two nodes, on which the auction is open. -/
def oddlyOffered : Cluster := (oddOffer.perform alone.startNode.2.startNode.2 ⟨.multicast, 1⟩).2

/-- The auction has been closed, and the second node is told to copy the state of the first one. -/
def oddlyConcluded : Cluster := (oddClosing.polled oddlyOffered ⟨.multicast, 1⟩).2

/-- The second node has come to the command, and another auction has been opened on both nodes. -/
def reopened : Cluster :=
  (lampOffer.polled (oddlyConcluded.heeding [⟨.multicast, 4⟩]) ⟨.multicast, 1⟩).2

theorem run_concluded :
    ∃ outcomes, (still alone).Run ⟨.multicast, 1⟩
      [.start, .start, .perform oddOffer, .perform oddClosing] outcomes (still oddlyConcluded) := by
  have starts : staffed.startNode.1 = .ok (⟨.multicast, 4⟩, ⟨.rpc, 5⟩) := by decide +kernel
  have paired := run_staffed.startNode storable_first starts
  obtain ⟨result, opens⟩ : ∃ result, (oddOffer.perform staffed.startNode.2 ⟨.multicast, 1⟩).1 =
      .created result :=
    ⟨_, perform_create staffed.startNode.2 ⟨.multicast, 1⟩ _ _ _ _⟩
  have offered := paired.perform_prompt storable_first oddOffer
    (.inr (by simp [Outcome.LastAgrees])) ⟨by decide, by decide, by decide, by decide⟩
    (by simp [oddOffer])
  rw [opens, staffed, ← oddlyOffered] at offered
  have owner : Text.Storable "Ann" := by decide
  exact ⟨_, offered.poll oddClosing (.inr (by simp [Outcome.LastAgrees, Outcome.Agrees])) owner
    (by simp [oddClosing])⟩

theorem due_concluded :
    ∃ snapshot, oddlyConcluded.Due ⟨.multicast, 4⟩ snapshot ∧ snapshot.auctions = .empty := by
  have runs : ⟨.multicast, 4⟩ ∈ oddlyConcluded.running.map Node.address := by decide +kernel
  have waiting : oddlyConcluded.hub.queueOf ⟨.multicast, 4⟩ =
      [.message ⟨.multicast, 1⟩ (.command .sync ⟨.multicast, 2⟩)] := by
    decide +kernel
  have known : ((oddlyConcluded.fetchSnapshot ⟨.multicast, 4⟩ ⟨.multicast, 2⟩).toOption.map
      Snapshot.auctions) = some .empty := by
    decide +kernel
  obtain ⟨snapshot, handed, empty⟩ := Option.map_eq_some_iff.mp known
  exact ⟨snapshot, ⟨runs, _, _, _, waiting, rfl, fetchSnapshot_eq_ok handed⟩, empty⟩

/-- The second node has fetched a state before it serves the opening of the other auction, and puts
it in the place of its own afterwards. -/
theorem exists_run_hasty :
    ∃ steps outcomes scene before services ballot after rested,
      (still alone).Run ⟨.multicast, 1⟩ steps outcomes scene ∧
        Performs ⟨.multicast, 1⟩ lampOffer scene before services ballot after ∧
        after.Meanwhile rested ∧ rested.Calm ∧
        ∃ left ∈ rested.cluster.running, ∃ right ∈ rested.cluster.running,
          left.replica ≠ right.replica := by
  obtain ⟨outcomes, run⟩ := run_concluded
  obtain ⟨snapshot, due, empty⟩ := due_concluded
  have quiet : ∀ address ∈ reopened.running.map Node.address, reopened.peersOf address = [] := by
    decide +kernel
  have keeps : ∃ node ∈ reopened.running, node.address = ⟨.multicast, 2⟩ ∧
      node.replica.auctions ≠ .empty := by
    decide +kernel
  have forgets : ∃ node ∈ reopened.running, node.address = ⟨.multicast, 4⟩ := by decide +kernel
  obtain ⟨begun, before, services, ended, heeds, performs, restores⟩ :=
    Performs.of_late ⟨.multicast, 1⟩ lampOffer (List.nodup_singleton ⟨.multicast, 4⟩)
      fun address isLate => List.mem_singleton.mp isLate ▸ due
  obtain ⟨after, isAfter⟩ : ∃ after, after = reopened := ⟨_, rfl⟩
  rw [← reopened, ← isAfter, after.restoring_singleton] at restores
  rw [← isAfter] at quiet keeps forgets
  obtain ⟨left, isLeft, leftNamed, full⟩ := keeps
  obtain ⟨right, isRight, rightNamed⟩ := forgets
  have running := running_revise after (fun node =>
    if node.address = ⟨.multicast, 4⟩ then node.replica.restore snapshot else node.replica) []
  refine ⟨_, _, _, _, services, _, _, _, run.meanwhile heeds, performs, restores,
    ⟨fun address => rfl, fun address isRunning => ?_⟩, ?_⟩
  · exact quiet address (runningAddresses_revise after _ [] ▸ isRunning)
  · refine ⟨_, running ▸ List.mem_map_of_mem isLeft, _, running ▸ List.mem_map_of_mem isRight, ?_⟩
    intro same
    refine full ?_
    simpa [leftNamed, rightNamed, Replica.restore, empty] using
      congrArg (fun replica => replica.auctions) same

/-- In every state that a cluster can come to, the serving nodes are copies of one replica that has
served the same requests since the first of them started; and every operation gave what it would
have given on that replica. -/
theorem Run.single_replica {begun : Cluster}
    (attached : (fresh settings seed accounts).startCoordinator = (.ok me, begun))
    (texts : (Replica.first settings seed).snapshot.Storable)
    (run : (still begun).Run me steps outcomes scene) :
    scene.cluster.running.map Node.replica =
        List.replicate (Lone.through accounts (.first settings seed) steps).count
          (Lone.through accounts (.first settings seed) steps).replica ∧
      outcomes = (Lone.through accounts (.first settings seed) steps).outcomes := by
  rw [startCoordinator_fresh] at attached
  obtain ⟨named, rfl⟩ := Prod.mk.inj attached
  obtain rfl := Except.ok.inj named
  obtain ⟨mirrors, -, given⟩ := run.mirrors texts
  exact ⟨mirrors.copies, given⟩

/-- After the new beginning the auction is gone. -/
theorem Run.single_replica_renewal :
    ∃ outcomes scene,
      (still alone).Run ⟨.multicast, 1⟩ renewal outcomes scene ∧
        scene.cluster.running.map Node.replica = [Replica.fresh 1000 5000] ∧
        outcomes = [.created (.ok 1000)] := by
  obtain ⟨outcomes, scene, run⟩ := exists_run_renewal
  obtain ⟨copies, given⟩ := run.single_replica (startCoordinator_fresh _ _ _) storable_first
  have served : ((Replica.fresh 1000 5000).serve
      (.addAuction (.unbid "Ann" ⟨0⟩ "Lamp" ⟨0⟩))).1 = .ok (.added (some 1000)) := by
    decide +kernel
  have opened : (Lone.through (.table []) (.first .standard none) renewal).outcomes =
      [(Operation.create "Ann" ⟨0⟩ "Lamp" ⟨0⟩).outcome
        (((Replica.fresh 1000 5000).serve
          (.addAuction (.unbid "Ann" ⟨0⟩ "Lamp" ⟨0⟩))).1.mapError fun _ => .noReplies)] := rfl
  rw [served] at opened
  exact ⟨outcomes, scene, run, copies, given.trans opened⟩

/-- A replica that serves the requests of all steps, whatever else happens. -/
def servesAll (accounts : Accounts) (replica : Replica) : Step → Replica
  | .perform operation => (replica.serve (operation.request accounts)).2
  | _ => replica

/-- Not all nodes are copies of a replica that has served all requests: a node that starts when no
other one is left has not.  Nor need they be copies of each other after an operation that does not
wait, even when nobody copies anything any more. -/
theorem Run.not_servesAll :
    (¬∀ steps outcomes scene, (still alone).Run ⟨.multicast, 1⟩ steps outcomes scene →
      ∀ node ∈ scene.cluster.running, node.replica =
        steps.foldl (servesAll (.table [])) (.first .standard none)) ∧
    ¬∀ steps outcomes scene operation before services ballot after rested,
      (still alone).Run ⟨.multicast, 1⟩ steps outcomes scene →
        (operation.request scene.cluster.accounts).Storable → operation ≠ .listings →
          Performs ⟨.multicast, 1⟩ operation scene before services ballot after →
            after.Meanwhile rested → rested.Calm →
              ∀ left ∈ rested.cluster.running, ∀ right ∈ rested.cluster.running,
                left.replica = right.replica := by
  constructor
  · intro always
    obtain ⟨outcomes, scene, run⟩ := exists_run_renewal
    obtain ⟨mirrors, -, -⟩ := run.mirrors storable_first
    have copies : scene.cluster.running.map Node.replica = [Replica.fresh 1000 5000] :=
      mirrors.copies
    obtain ⟨node, isRunning, fresh⟩ :=
      List.mem_map.mp (copies ▸ List.mem_singleton_self (Replica.fresh 1000 5000))
    have differ : Replica.fresh 1000 5000 ≠
        renewal.foldl (servesAll (.table [])) (.first .standard none) := by
      decide +kernel
    exact differ (fresh.symm.trans (always renewal outcomes scene run node isRunning))
  · intro alike
    obtain ⟨steps, outcomes, scene, before, services, ballot, after, rested, run, performs,
      meanwhile, calm, left, isLeft, right, isRight, differ⟩ := exists_run_hasty
    exact differ (alike steps outcomes scene lampOffer before services ballot after rested run
      (storable_lampOffer _) (by simp [lampOffer]) performs meanwhile calm left isLeft right
      isRight)

end Scene

end AuctionHouse
