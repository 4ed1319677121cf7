import Mathlib.Logic.Function.Basic
import Mathlib.Logic.Relation
import AuctionHouse.Proofs.Commands

/-!
# Operations while others listen

Every process has a listener, which takes one event after the other out of its queue.  That of a
coordinator notes addresses.  That of a node waits for commands: it fetches the state that the node
is to copy, and some time later it puts this state in the place of the node's own.  Listeners keep
nobody waiting and wait for nobody.

So a round of a coordinator is no single step.  The members that are asked work on the request one
after the other in any order, the replies come back in any order, the commands are posted one by
one, and in between any listener may take any step.  A scene is a cluster in the middle of this.
-/

namespace AuctionHouse

/-- The hub after a member has taken the oldest event out of its queue. -/
def Hub.dequeue {source handler : Type} (hub : Hub source handler) (address : Address) :
    Hub source handler :=
  hub.withQueues fun member =>
    if member.address = address then member.queue.tail else member.queue

/-- A cluster in the middle of things. -/
structure Scene where
  /-- Everybody, and what has arrived. -/
  cluster : Cluster
  /-- The states that nodes have fetched and not yet put in the place of their own. -/
  fetched : Address → Option Snapshot

namespace Scene

open Cluster

/-- A cluster in which nobody has fetched anything. -/
def still (cluster : Cluster) : Scene := ⟨cluster, fun _ => none⟩

/-- One step of a listener. -/
inductive Listens (scene : Scene) : Scene → Prop
  /-- A coordinator notes what an event says about addresses. -/
  | note {coordinator : Coordinator} {event : Event} {rest : List Event}
      (listed : coordinator ∈ scene.cluster.coordinators)
      (waiting : scene.cluster.hub.queueOf coordinator.address = event :: rest) :
      Listens scene { scene with
        cluster := (scene.cluster.withHub
            (scene.cluster.hub.dequeue coordinator.address)).modifyCoordinator
          coordinator.address fun noted => { noted with book := bookAfter noted.book event } }
  /-- A node passes over an event that is no command. -/
  | pass {node : Node} {event : Event} {rest : List Event}
      (isRunning : node ∈ scene.cluster.running) (idle : scene.fetched node.address = none)
      (waiting : scene.cluster.hub.queueOf node.address = event :: rest)
      (unheard : event.peer? = none) :
      Listens scene { scene with
        cluster := scene.cluster.withHub (scene.cluster.hub.dequeue node.address) }
  /-- A node comes to a command and fetches the state that it is to copy. -/
  | fetch {node : Node} {event : Event} {rest : List Event} {peer : Address} {snapshot : Snapshot}
      (isRunning : node ∈ scene.cluster.running) (idle : scene.fetched node.address = none)
      (waiting : scene.cluster.hub.queueOf node.address = event :: rest)
      (told : event.peer? = some peer)
      (handed : scene.cluster.fetchSnapshot node.address peer = .ok snapshot) :
      Listens scene ⟨scene.cluster.withHub (scene.cluster.hub.dequeue node.address),
        Function.update scene.fetched node.address (some snapshot)⟩
  /-- A node comes to a command and cannot fetch the state. -/
  | miss {node : Node} {event : Event} {rest : List Event} {peer : Address} {fault : Fault}
      (isRunning : node ∈ scene.cluster.running) (idle : scene.fetched node.address = none)
      (waiting : scene.cluster.hub.queueOf node.address = event :: rest)
      (told : event.peer? = some peer)
      (refused : scene.cluster.fetchSnapshot node.address peer = .error fault) :
      Listens scene { scene with
        cluster := (scene.cluster.withHub (scene.cluster.hub.dequeue node.address)).note
          (.failed node.address peer fault) }
  /-- A node puts the state that it has fetched in the place of its own. -/
  | restore {node : Node} {snapshot : Snapshot} (listed : node ∈ scene.cluster.nodes)
      (held : scene.fetched node.address = some snapshot) :
      Listens scene ⟨scene.cluster.modifyNode node.address fun node =>
          { node with replica := node.replica.restore snapshot },
        Function.update scene.fetched node.address none⟩

/-- The node with an address comes to a command and fetches the state that it is to copy. -/
theorem Listens.fetch_of_mem {scene : Scene} {address peer : Address} {event : Event}
    {rest : List Event} {snapshot : Snapshot}
    (runs : address ∈ scene.cluster.running.map Node.address)
    (idle : scene.fetched address = none)
    (waiting : scene.cluster.hub.queueOf address = event :: rest)
    (told : event.peer? = some peer)
    (handed : scene.cluster.fetchSnapshot address peer = .ok snapshot) :
    scene.Listens ⟨scene.cluster.withHub (scene.cluster.hub.dequeue address),
      Function.update scene.fetched address (some snapshot)⟩ := by
  obtain ⟨node, isRunning, rfl⟩ := List.mem_map.mp runs
  exact .fetch isRunning idle waiting told handed

/-- The node with an address puts the state that it has fetched in the place of its own. -/
theorem Listens.restore_of_mem {scene : Scene} {address : Address} {snapshot : Snapshot}
    (listed : address ∈ scene.cluster.nodes.map Node.address)
    (held : scene.fetched address = some snapshot) :
    scene.Listens ⟨scene.cluster.modifyNode address fun node =>
        { node with replica := node.replica.restore snapshot },
      Function.update scene.fetched address none⟩ := by
  obtain ⟨node, isListed, rfl⟩ := List.mem_map.mp listed
  exact .restore isListed held

/-- Listeners take steps, as many as they like. -/
abbrev Meanwhile : Scene → Scene → Prop := Relation.ReflTransGen Listens

/-- A member of the RPC group works on a request. -/
structure Service where
  /-- The scene in which the request finds it. -/
  found : Scene
  /-- The address under which it was asked. -/
  rpc : Address
  /-- How it answers. -/
  answerer : Answerer

namespace Service

/-- What its reply is when it reaches who asked, if there is one. -/
def vote? (service : Service) (request : Request) : Option (Address × Reply) :=
  ((service.found.cluster.answer request service.answerer).1.bind fun sent =>
    (Wire.transmit sent).toOption).map fun received => (service.rpc, received)

/-- The replica that the request finds, if it is a node's. -/
def replica? (service : Service) : Option Replica :=
  match service.answerer with
  | .node address => (service.found.cluster.node? address).map Node.replica
  | .guest _ _ => none

/-- The scene that it leaves. -/
def after (service : Service) (request : Request) : Scene :=
  { service.found with
    cluster := (service.found.cluster.answer request service.answerer).2 }

/-- A node votes as its replica replies. -/
theorem vote?_eq {service : Service} {replica : Replica} (held : service.replica? = some replica)
    (request : Request) :
    service.vote? request =
      (replica.reply? request).map fun received => (service.rpc, received) := by
  obtain ⟨found, rpc, answerer⟩ := service
  cases answerer with
  | guest address rule => contradiction
  | node address =>
      obtain ⟨node, present, rfl⟩ := Option.map_eq_some_iff.mp held
      simp only [vote?, answer, present]
      rfl

end Service

/-- Everybody who was asked works on the request, one after the other in some order. -/
inductive FansOut (request : Request) :
    Scene → List (Address × Answerer) → List Service → Scene → Prop
  | ended (scene : Scene) : FansOut request scene [] [] scene
  | listen {scene between after : Scene} {asked : List (Address × Answerer)} {log : List Service}
      (listens : scene.Listens between) (rest : FansOut request between asked log after) :
      FansOut request scene asked log after
  | serve {scene after : Scene} {entry : Address × Answerer}
      {asked others : List (Address × Answerer)} {log : List Service}
      (picked : asked.Perm (entry :: others))
      (rest : FansOut request (Service.after ⟨scene, entry.1, entry.2⟩ request) others log after) :
      FansOut request scene asked (⟨scene, entry.1, entry.2⟩ :: log) after

/-- A coordinator posts the commands of a plan one by one. -/
inductive Tells (me : Address) : List (Address × Address) → Scene → Scene → Prop
  | ended (scene : Scene) : Tells me [] scene scene
  | listen {scene between after : Scene} {plan : List (Address × Address)}
      (listens : scene.Listens between) (rest : Tells me plan between after) :
      Tells me plan scene after
  | tell {scene after : Scene} {step : Address × Address} {plan : List (Address × Address)}
      (rest : Tells me plan { scene with cluster := carryOut me scene.cluster [step] } after) :
      Tells me (step :: plan) scene after

/-- A round of a coordinator: who was asked works on the request, the replies are counted in the
order of the view, whatever the order in which they arrive, and the repairs are ordered. -/
inductive Round (me : Address) (request : Request) (scene : Scene) :
    List Service → Ballot Reply → Scene → Prop
  | unsent {fault : Wire.Fault} (lost : Wire.transmit request = .error fault) :
      Round me request scene [] (.tally []) scene
  | sent {received : Request} {log : List Service} {gathered after : Scene}
      {replies : List (Address × Reply)} {ballot : Ballot Reply}
      (carried : Wire.transmit request = .ok received)
      (fansOut : FansOut received scene (scene.cluster.hub.audience me) log gathered)
      (arrived : replies.Perm (log.filterMap fun service => service.vote? received))
      (counted : ballot = .tally (Ballot.inViewOrder gathered.cluster.hub.rpcView replies))
      (tells : Tells me (gathered.cluster.repairs me ballot) gathered after) :
      Round me request scene log ballot after

/-- A request that can travel goes around. -/
theorem Round.of_storable {me : Address} {request : Request} {scene after : Scene}
    {log : List Service} {ballot : Ballot Reply} (storable : request.Storable)
    (round : Round me request scene log ballot after) :
    ∃ gathered replies, FansOut request scene (scene.cluster.hub.audience me) log gathered ∧
      replies.Perm (log.filterMap fun service => service.vote? request) ∧
      ballot = .tally (Ballot.inViewOrder gathered.cluster.hub.rpcView replies) ∧
      Tells me (gathered.cluster.repairs me ballot) gathered after := by
  have travels := Wire.transmit_of_survives (Wire.survives_request storable)
  cases round with
  | unsent lost =>
      rw [travels] at lost
      contradiction
  | sent carried fansOut arrived counted tells =>
      rw [travels] at carried
      obtain rfl := Except.ok.inj carried
      exact ⟨_, _, fansOut, arrived, counted, tells⟩

/-- What comes before the request of an operation: a fingerprint round, unless the operation is
one, and whatever the listeners do until the request is sent. -/
inductive Prepares (me : Address) (scene : Scene) : Operation → Scene → Prop
  | verify : Prepares me scene .verify scene
  | check {operation : Operation} (asks : operation ≠ .verify) {log : List Service}
      {ballot : Ballot Reply} {told before : Scene}
      (round : Round me .fingerprint scene log ballot told) (meanwhile : told.Meanwhile before) :
      Prepares me scene operation before

/-- An operation from its beginning to some time after its end: the scene into which its request is
sent, what happened to the request, the ballot, and the scene that is left. -/
structure Performs (me : Address) (operation : Operation) (scene before : Scene)
    (log : List Service) (ballot : Ballot Reply) (after : Scene) : Prop where
  prepares : Prepares me scene operation before
  round : ∃ told, Round me (operation.request scene.cluster.accounts) before log ballot told ∧
    told.Meanwhile after

/-! ## What every step keeps -/

variable (holds : Scene → Prop) {me : Address} {request : Request} {scene after : Scene}

/-- Listeners do not end what none of their steps ends. -/
theorem Meanwhile.keep
    (closed : ∀ {scene after : Scene}, holds scene → scene.Listens after → holds after)
    (begun : holds scene) (meanwhile : scene.Meanwhile after) : holds after := by
  induction meanwhile with
  | refl => exact begun
  | tail _ listens induction => exact closed induction listens

/-- What neither listeners nor answers end still holds when a request has gone around, and whoever
was asked was asked where it held. -/
theorem FansOut.keep
    (closed : ∀ {scene after : Scene}, holds scene → scene.Listens after → holds after)
    {asked : List (Address × Answerer)} {log : List Service}
    (serves : ∀ service : Service, (service.rpc, service.answerer) ∈ asked →
      holds service.found → holds (service.after request))
    (begun : holds scene) (fansOut : FansOut request scene asked log after) :
    holds after ∧
      ∀ service ∈ log, (service.rpc, service.answerer) ∈ asked ∧ holds service.found := by
  induction fansOut with
  | ended => exact ⟨begun, by simp⟩
  | listen listens _ induction => exact induction serves (closed begun listens)
  | @serve scene after entry asked others log picked _ induction =>
      have first : (entry.1, entry.2) ∈ asked := picked.mem_iff.mpr List.mem_cons_self
      have remain {other : Address × Answerer} (isOther : other ∈ others) : other ∈ asked :=
        picked.mem_iff.mpr (List.mem_cons_of_mem _ isOther)
      obtain ⟨kept, found⟩ := induction (fun service isOther => serves service (remain isOther))
        (serves ⟨scene, entry.1, entry.2⟩ first begun)
      refine ⟨kept, fun service listed => ?_⟩
      rcases List.mem_cons.mp listed with rfl | later
      · exact ⟨first, begun⟩
      · exact ⟨remain (found service later).1, (found service later).2⟩

/-- Before somebody works on the request listeners may take as many steps as they like. -/
theorem FansOut.meanwhile {between : Scene} {asked : List (Address × Answerer)}
    {log : List Service} (meanwhile : scene.Meanwhile between)
    (rest : FansOut request between asked log after) : FansOut request scene asked log after := by
  induction meanwhile using Relation.ReflTransGen.head_induction_on with
  | refl => exact rest
  | head listens _ induction => exact .listen listens induction

/-- Everybody who is asked works on the request once. -/
theorem FansOut.log_perm {asked : List (Address × Answerer)} {log : List Service}
    (fansOut : FansOut request scene asked log after) :
    (log.map fun service => (service.rpc, service.answerer)).Perm asked := by
  induction fansOut with
  | ended => exact .refl _
  | listen _ _ induction => exact induction
  | serve picked _ induction => exact (induction.cons _).trans picked.symm

/-- What neither listeners nor the commands of a plan end still holds when these have been given. -/
theorem Tells.keep
    (closed : ∀ {scene after : Scene}, holds scene → scene.Listens after → holds after)
    {plan : List (Address × Address)}
    (commands : ∀ {scene : Scene}, ∀ step ∈ plan, holds scene →
      holds { scene with cluster := carryOut me scene.cluster [step] })
    (begun : holds scene) (tells : Tells me plan scene after) : holds after := by
  induction tells with
  | ended => exact begun
  | listen listens _ induction => exact induction commands (closed begun listens)
  | tell _ induction =>
      exact induction (fun step isLater => commands step (List.mem_cons_of_mem _ isLater))
        (commands _ List.mem_cons_self begun)

section Whole

variable (closed : ∀ {scene after : Scene}, holds scene → scene.Listens after → holds after)
  (answers : ∀ {scene : Scene} (request : Request) (answerer : Answerer), holds scene →
    holds { scene with cluster := (scene.cluster.answer request answerer).2 })
  (commands : ∀ {planned scene : Scene} (ballot : Ballot Reply), holds planned →
    ∀ step ∈ planned.cluster.repairs me ballot, holds scene →
      holds { scene with cluster := carryOut me scene.cluster [step] })
include closed answers commands

/-- What neither listeners nor answers nor the commands that are planned end outlasts a round. -/
theorem Round.keep {log : List Service} {ballot : Ballot Reply} (begun : holds scene)
    (round : Round me request scene log ballot after) : holds after := by
  cases round with
  | unsent lost => exact begun
  | sent carried fansOut arrived counted tells =>
      have gathered := (fansOut.keep holds closed (fun _ _ => answers _ _) begun).1
      exact tells.keep holds closed (fun step isStep => commands _ gathered step isStep) gathered

/-- It outlasts what comes before the request of an operation. -/
theorem Prepares.keep {operation : Operation} (begun : holds scene)
    (prepares : Prepares me scene operation after) : holds after := by
  cases prepares with
  | verify => exact begun
  | check asks round meanwhile =>
      exact meanwhile.keep holds closed (round.keep holds closed answers commands begun)

/-- It outlasts an operation. -/
theorem Performs.keep {operation : Operation} {before : Scene} {log : List Service}
    {ballot : Ballot Reply} (begun : holds scene)
    (performs : Performs me operation scene before log ballot after) : holds after := by
  obtain ⟨told, round, meanwhile⟩ := performs.round
  have prepared := performs.prepares.keep holds closed answers commands begun
  exact meanwhile.keep holds closed (round.keep holds closed answers commands prepared)

end Whole

end Scene

namespace Operation

/-- What an operation gives when its request has led to a ballot. -/
def gives (operation : Operation) (ballot : Ballot Reply) : Outcome :=
  operation.outcome (ballot.winner?.elim (.error .noReplies) .ok)

/-- The cluster in which the request of an operation goes around if nobody listens. -/
def checked (cluster : Cluster) (me : Address) : Operation → Cluster
  | .verify => cluster
  | _ => (cluster.ballotRound me .fingerprint).2

/-- The ballot to which its request leads if nobody listens, and the cluster that is left. -/
def polled (cluster : Cluster) (me : Address) (operation : Operation) : Ballot Reply × Cluster :=
  (operation.checked cluster me).ballotRound me (operation.request cluster.accounts)

end Operation

/-! ## While nobody listens -/

namespace Scene

open Cluster

theorem FansOut.of_collect (request : Request) (asked : List (Address × Answerer))
    (cluster : Cluster) (fetched : Address → Option Snapshot) :
    ∃ log, FansOut request ⟨cluster, fetched⟩ asked log
        ⟨(collect request asked cluster).2, fetched⟩ ∧
      (log.filterMap fun service => service.vote? request) =
        (collect request asked cluster).1 := by
  induction asked generalizing cluster with
  | nil => exact ⟨[], .ended _, rfl⟩
  | cons entry others induction =>
      obtain ⟨log, fansOut, votes⟩ := induction (cluster.answer request entry.2).2
      refine ⟨⟨⟨cluster, fetched⟩, entry.1, entry.2⟩ :: log, ?_, ?_⟩
      · rw [collect_cons_snd]
        exact .serve (.refl _) fansOut
      · rw [List.filterMap_cons, votes, Service.vote?, collect]
        dsimp only
        cases (cluster.answer request entry.2).1.bind fun sent => (Wire.transmit sent).toOption with
        | none => rfl
        | some received => rfl

theorem Tells.of_carryOut (me : Address) (plan : List (Address × Address)) (cluster : Cluster)
    (fetched : Address → Option Snapshot) :
    Tells me plan ⟨cluster, fetched⟩ ⟨carryOut me cluster plan, fetched⟩ := by
  induction plan generalizing cluster with
  | nil => exact .ended _
  | cons step plan induction =>
      rw [carryOut_split]
      exact .tell (induction _)

/-- A round in which nobody listens. -/
theorem Round.of_ballotRound (me : Address) (request : Request) (scene : Scene) :
    ∃ log, Round me request scene log (scene.cluster.ballotRound me request).1
      ⟨(scene.cluster.ballotRound me request).2, scene.fetched⟩ := by
  obtain ⟨cluster, fetched⟩ := scene
  simp only [ballotRound, callAll]
  cases travels : Wire.transmit request with
  | error fault => exact ⟨[], .unsent travels⟩
  | ok received =>
      obtain ⟨log, fansOut, votes⟩ :=
        FansOut.of_collect received (cluster.hub.audience me) cluster fetched
      exact ⟨log, .sent travels fansOut (.of_eq votes.symm) rfl (.of_carryOut _ _ _ _)⟩

/-- An operation during which nobody listens, so in every scene every operation comes to an end. -/
theorem Performs.of_polled (me : Address) (operation : Operation) (scene : Scene) :
    ∃ log, Performs me operation scene ⟨operation.checked scene.cluster me, scene.fetched⟩ log
      (operation.polled scene.cluster me).1
      ⟨(operation.polled scene.cluster me).2, scene.fetched⟩ := by
  obtain ⟨log, round⟩ := Round.of_ballotRound me (operation.request scene.cluster.accounts)
    ⟨operation.checked scene.cluster me, scene.fetched⟩
  refine ⟨log, ?_, _, round, .refl⟩
  obtain ⟨checks, check⟩ := Round.of_ballotRound me .fingerprint scene
  cases operation with
  | verify => exact .verify
  | _ => exact .check (by simp) check .refl

end Scene

end AuctionHouse
