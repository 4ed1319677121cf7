import Mathlib.Logic.Relation
import AuctionHouse.Proofs.Course
import AuctionHouse.Proofs.Holdings
import AuctionHouse.Proofs.Mailboxes

/-!
# While a node waits

A node that has joined the multicast group and has no state yet has to wait until it gets one.  In
the meantime anything may happen around it: processes join, leave and answer requests, addresses are
cut off and connected again, requests go around and everybody works off their queues.  As long as
nobody speaks for the node or commands it anything, none of this reaches it: it keeps the replica it
was made with, has no RPC address, and is in nobody's audience.
-/

namespace AuctionHouse

/-! ## What others do with the hub -/

namespace Deed

/-- A deed by which nobody commands a process to copy a state. -/
def Harmless {source handler : Type} (me : Address) (deed : Deed source handler) : Prop :=
  ∀ sender addressee peer, deed = .sent sender addressee (.command .sync peer) →
    ∃ other, addressee = some other ∧ other ≠ me

/-- A deed of others: a process is commanded nothing by it, is not the one that joins the RPC group
or leaves, and nobody answers requests by its replica. -/
structure Spares (me : Address) (deed : Deed StateSource Answerer) : Prop where
  harmless : deed.Harmless me
  registers : ∀ entry, deed.registration? = some entry → entry.1 ≠ me ∧ entry.2.2 ≠ .node me
  stays : deed.left? ≠ some me

/-- A deed that registers nobody, by which nobody leaves and that is no message. -/
def Plain : Deed StateSource Answerer → Prop
  | .joined .. | .attached _ | .isolated _ | .healed _ | .called _ | .read .. => True
  | .joinedRpc .. | .left _ | .sent .. => False

theorem Plain.spares {me : Address} {deed : Deed StateSource Answerer} (plain : deed.Plain) :
    deed.Spares me := by
  cases deed with
  | joinedRpc | left | sent => exact plain.elim
  | _ => exact ⟨by simp [Harmless], by simp [registration?], by simp [left?]⟩

theorem spares_left {me other : Address} (differ : other ≠ me) :
    (Deed.left other : Deed StateSource Answerer).Spares me :=
  ⟨by simp [Harmless], by simp [registration?], by simpa [left?] using differ⟩

theorem spares_joinedRpc {me other rpc : Address} {answer : Answerer} (differ : other ≠ me)
    (answers : answer ≠ .node me) : (Deed.joinedRpc other rpc answer).Spares me where
  harmless := by simp [Harmless]
  registers entry registered := by
    obtain rfl := Option.some.inj registered
    exact ⟨differ, answers⟩
  stays := by simp [left?]

end Deed

namespace Hub

section Commands

variable {source handler : Type} {hub after : Hub source handler} {deed : Deed source handler}
  {me : Address}

/-- Nothing arrives with a process that commands it to copy a state. -/
theorem arrivals_uncommanded (hub : Hub source handler) (harmless : deed.Harmless me) :
    (hub.arrivals me deed).filterMap Event.peer? = [] := by
  cases deed with
  | sent sender addressee body =>
      cases body with
      | command command peer =>
          obtain ⟨other, rfl, differ⟩ := harmless sender addressee peer rfl
          have unmeant : hub.within sender (some other) me = false := by
            simp [within, Ne.symm differ]
          simp [arrivals, unmeant]
      | announce rpc multicast =>
          simp [arrivals, Event.peer?, apply_ite (List.filterMap _)]
  | left member =>
      cases own : hub.rpcAddress? member with
      | none => simp [arrivals, own, Event.peer?, apply_ite (List.filterMap _)]
      | some rpc => simp [arrivals, own, Event.peer?, apply_ite (List.filterMap _)]
  | joined | attached | joinedRpc | isolated | healed | called | read =>
      simp [arrivals, Event.peer?, apply_ite (List.filterMap _)]

/-- Where no command waits none does after a deed that commands nothing. -/
theorem Does.uncommanded (does : hub.Does deed after) (enumerated : hub.Enumerated)
    (harmless : deed.Harmless me) (quiet : (hub.queueOf me).filterMap Event.peer? = []) :
    (after.queueOf me).filterMap Event.peer? = [] := by
  have whole := congrArg (List.filterMap Event.peer?) (does.queueOf enumerated me)
  rw [List.filterMap_append, List.filterMap_append, quiet, hub.arrivals_uncommanded harmless]
    at whole
  exact (List.append_eq_nil_iff.mp whole).2

/-- An announcement that has been posted. -/
theorem Does.of_announce {rpc : Address} (announced : hub.announce me rpc = .ok after) :
    hub.Does (.sent me none (.announce rpc me)) after := by
  have does : hub.Does (.sent me none (.announce rpc me)) (hub.posted (hub.announce me rpc)) :=
    .announce me rpc
  rw [announced] at does
  exact does

end Commands

variable {hub after : Hub StateSource Answerer} {deed : Deed StateSource Answerer} {me : Address}

/-- A process receives events and has no RPC address, nobody answers by its replica, and no command
waits for it. -/
structure Awaits (hub : Hub StateSource Answerer) (me : Address) : Prop where
  enumerated : hub.Enumerated
  standing : hub.standing me = some (true, none)
  unanswered : ∀ entry ∈ hub.handlers, entry.2 ≠ .node me
  uncommanded : (hub.queueOf me).filterMap Event.peer? = []

/-- Whatever others do with the hub. -/
theorem Awaits.does (awaits : hub.Awaits me) (does : hub.Does deed after)
    (spares : deed.Spares me) : after.Awaits me := by
  have isMember : me ∈ hub.members.map Member.address :=
    (hub.standing_isSome me).mp (by rw [awaits.standing]; rfl)
  have enumerated := does.enumerated awaits.enumerated
  have uncommanded :=
    does.uncommanded awaits.enumerated spares.harmless awaits.uncommanded
  obtain ⟨⟨distinct, numbered⟩, standing, unanswered, -⟩ := awaits
  cases does.effect with
  | @join member state after joined =>
      have differ : me ≠ member := numbered.ne_of_join joined isMember
      refine ⟨enumerated, ?_, ?_, uncommanded⟩
      · rw [standing_join numbered joined, if_neg differ, standing]
      · obtain ⟨-, -, rfl⟩ := join?_eq_some joined
        exact unanswered
  | @attach member after attached =>
      have differ : me ≠ member := by
        rintro rfl
        exact fresh_of_attach numbered attached isMember
      refine ⟨enumerated, ?_, ?_, uncommanded⟩
      · rw [standing_attach numbered attached, if_neg differ, standing]
      · obtain ⟨-, -, rfl⟩ := attach?_eq_some attached
        exact unanswered
  | @joinRpc member rpc answer after present joinedRpc =>
      obtain ⟨differ, other⟩ := spares.registers _ rfl
      refine ⟨enumerated, ?_, fun entry listed => ?_, uncommanded⟩
      · rw [standing_joinRpc joinedRpc, if_neg (Ne.symm differ), standing]
      · rw [handlers_joinRpc joinedRpc] at listed
        rcases List.mem_append.mp listed with old | new
        · exact unanswered entry old
        · rw [List.mem_singleton.mp new]
          exact other
  | @leave member receives =>
      have differ : me ≠ member := by
        rintro rfl
        exact spares.stays rfl
      refine ⟨enumerated, ?_, fun entry listed => ?_, uncommanded⟩
      · rw [standing_leave receives, if_neg differ, standing]
      · exact unanswered entry (mem_handlers_of_leave listed)
  | none quiet alike =>
      exact ⟨enumerated, (alike.standing me).trans standing, alike.handlers ▸ unanswered,
        uncommanded⟩

theorem Awaits.rpcAddress?_eq_none (awaits : hub.Awaits me) : hub.rpcAddress? me = none := by
  rw [rpcAddress?_eq, awaits.standing]
  rfl

/-- Nobody's requests reach it. -/
theorem Awaits.unasked (awaits : hub.Awaits me) {caller : Address} {entry : Address × Answerer}
    (asked : entry ∈ hub.audience caller) : entry.2 ≠ .node me :=
  awaits.unanswered entry (mem_handlers_of_audience asked)

end Hub

namespace Cluster

variable {cluster after : Cluster} {me address : Address} {node : Node}

/-! ## What others do with their replicas -/

/-- A revision of the replicas of others. -/
theorem node?_revise_of_spared {replica : Node → Replica} {more : List Notice}
    (spared : ∀ node, node.address = me → replica node = node.replica) :
    (cluster.revise replica more).node? me = cluster.node? me := by
  rw [node?_revise]
  cases found : cluster.node? me with
  | none => rfl
  | some node =>
      rw [Option.map_some, spared node (mem_nodes_of_node? found).2]

theorem node?_setReplica_of_ne (differ : address ≠ me) (replica : Replica) :
    (cluster.setReplica address replica).node? me = cluster.node? me := by
  rw [setReplica_eq]
  refine node?_revise_of_spared fun node named => if_neg ?_
  rintro rfl
  exact differ named

/-- A request is served by others only. -/
theorem node?_answer {answerer : Answerer} (other : answerer ≠ .node me) (request : Request) :
    (cluster.answer request answerer).2.node? me = cluster.node? me := by
  cases answerer with
  | guest address rule => rfl
  | node address =>
      have differ : address ≠ me := fun same => other (congrArg _ same)
      rw [answer]
      split
      · exact node?_setReplica_of_ne differ _
      · rfl

theorem node?_collect {asked : List (Address × Answerer)}
    (others : ∀ entry ∈ asked, entry.2 ≠ .node me) (request : Request) :
    (collect request asked cluster).2.node? me = cluster.node? me := by
  induction asked generalizing cluster with
  | nil => rfl
  | cons head rest induction =>
      rw [collect_cons_snd, induction fun entry listed => others entry (by simp [listed])]
      exact node?_answer (others head (by simp)) request

/-- A request goes around among others. -/
theorem node?_callAll {caller : Address}
    (others : ∀ entry ∈ cluster.hub.audience caller, entry.2 ≠ .node me) (request : Request) :
    (cluster.callAll caller request).2.node? me = cluster.node? me := by
  rw [callAll]
  split
  · exact node?_collect others _
  · rfl

/-! ## Queues that are worked off -/

/-- Whoever is commanded nothing changes nothing. -/
theorem foldl_obey_of_quiet {events : List Event} (quiet : events.filterMap Event.peer? = [])
    (address : Address) (cluster : Cluster) : events.foldl (obey address) cluster = cluster := by
  induction events with
  | nil => rfl
  | cons event rest induction =>
      cases commands : event.peer? with
      | none =>
          rw [List.filterMap_cons_none commands] at quiet
          rw [List.foldl_cons, obey_of_none commands]
          exact induction quiet
      | some peer => simp [List.filterMap_cons_some commands] at quiet

/-- A node that obeys changes no replica but its own. -/
theorem foldl_obey_of_ne (differ : address ≠ me) (events : List Event) (cluster : Cluster) :
    (events.foldl (obey address) cluster).hub = cluster.hub ∧
      (events.foldl (obey address) cluster).node? me = cluster.node? me := by
  induction events generalizing cluster with
  | nil => exact ⟨rfl, rfl⟩
  | cons event rest induction =>
      obtain ⟨hub, found⟩ := induction (obey address cluster event)
      rw [List.foldl_cons, hub, found]
      cases commands : event.peer? with
      | none =>
          rw [obey_of_none commands]
          exact ⟨rfl, rfl⟩
      | some peer =>
          obtain ⟨more, obeyed⟩ := obey_of_some commands address cluster
          rw [obeyed]
          refine ⟨rfl, node?_revise_of_spared fun node named => if_neg ?_⟩
          rintro rfl
          exact differ named

/-- Working off a queue is reading it, if anything, and changes no other node; nor does it change
the node whose queue it is, if no command waits there. -/
theorem work_spares (quiet : cluster.peersOf me = []) (address : Address) :
    ((cluster.work address).hub = cluster.hub ∨
        (cluster.work address).hub = (cluster.hub.take address).2) ∧
      (cluster.work address).node? me = cluster.node? me := by
  rw [work]
  split
  · simp only [takeEvents_eq, Hub.take_eq]
    by_cases same : address = me
    · subst same
      rw [foldl_obey_of_quiet quiet]
      exact ⟨.inr rfl, rfl⟩
    · obtain ⟨hub, found⟩ := foldl_obey_of_ne same (cluster.hub.queueOf address)
        (cluster.withHub (cluster.hub.withQueues fun member =>
          if member.address = address then [] else member.queue))
      exact ⟨.inr hub, found⟩
  · exact ⟨.inl rfl, rfl⟩

/-- Nobody's queue gets longer by being read. -/
theorem peersOf_of_read {hub : Hub StateSource Answerer} (isHub : after.hub = hub)
    (read : hub = cluster.hub ∨ hub = (cluster.hub.take address).2)
    (quiet : cluster.peersOf me = []) : after.peersOf me = [] := by
  rw [peersOf, isHub]
  rcases read with rfl | rfl
  · exact quiet
  · rw [Hub.take_eq]
    simp only [cluster.hub.queueOf_emptied (fun other => other = address) me]
    split
    · rfl
    · exact quiet

/-- When everybody has read what has arrived, a node that was commanded nothing is as before. -/
theorem node?_settle (quiet : cluster.peersOf me = []) :
    cluster.settle.node? me = cluster.node? me := by
  have tracked (addresses : List Address) (cluster : Cluster) (quiet : cluster.peersOf me = []) :
      (addresses.foldl track cluster).peersOf me = [] ∧
        (addresses.foldl track cluster).node? me = cluster.node? me := by
    induction addresses generalizing cluster with
    | nil => exact ⟨quiet, rfl⟩
    | cons head rest induction =>
        exact induction (cluster.track head) (peersOf_of_read rfl (.inr rfl) quiet)
  have worked (addresses : List Address) (cluster : Cluster) (quiet : cluster.peersOf me = []) :
      (addresses.foldl work cluster).node? me = cluster.node? me := by
    induction addresses generalizing cluster with
    | nil => rfl
    | cons head rest induction =>
        obtain ⟨hub, found⟩ := work_spares quiet head
        exact (induction (cluster.work head) (peersOf_of_read rfl hub quiet)).trans found
  obtain ⟨still, found⟩ := tracked (cluster.coordinators.map Coordinator.address) cluster quiet
  exact (worked _ _ still).trans found

/-! ## What happens elsewhere -/

/-- One thing that happens while a node waits, apart from what the node does itself: somebody else
uses the hub, another node joins, a request goes around, a coordinator or a node reads what has
arrived, other nodes are changed in any way, or anything else is, the seed file included. -/
inductive Elsewhere (me : Address) (cluster : Cluster) : Cluster → Prop
  | uses {deed : Deed StateSource Answerer} {hub : Hub StateSource Answerer}
      (does : cluster.hub.Does deed hub) (spares : deed.Spares me) :
      Elsewhere me cluster (cluster.withHub hub)
  | joins {other : Address} {after : Cluster} (joined : cluster.joinNode? = some (other, after)) :
      Elsewhere me cluster after
  | asks (caller : Address) (request : Request) :
      Elsewhere me cluster (cluster.callAll caller request).2
  | tracks (address : Address) : Elsewhere me cluster (cluster.track address)
  | works (address : Address) : Elsewhere me cluster (cluster.work address)
  | changes (change : Node → Node) (named : ∀ node, (change node).address = node.address)
      (spares : ∀ node, node.address = me → change node = node) :
      Elsewhere me cluster { cluster with nodes := cluster.nodes.map change }
  | notes (seed : Option (Option (List UInt8))) (accounts : Accounts)
      (coordinators : List Coordinator) (received : List (Address × Request))
      (notices : List Notice) :
      Elsewhere me cluster { cluster with seed, accounts, coordinators, received, notices }

/-- What a cluster may have come to while a node waits. -/
abbrev Meanwhile (me : Address) : Cluster → Cluster → Prop := Relation.ReflTransGen (Elsewhere me)

/-- A node waits: it is known under its address, and the hub keeps it waiting. -/
structure Waits (cluster : Cluster) (node : Node) : Prop where
  hub : cluster.hub.Awaits node.address
  found : cluster.node? node.address = some node

/-- Nothing that happens elsewhere reaches a node that waits. -/
theorem Waits.elsewhere (waits : cluster.Waits node) (happens : Elsewhere node.address cluster after) :
    after.Waits node := by
  have quiet : cluster.peersOf node.address = [] := waits.hub.uncommanded
  have reads (address : Address) : (cluster.hub.take address).2.Awaits node.address :=
    waits.hub.does (.read address) (Deed.Plain.spares trivial)
  cases happens with
  | uses does spares => exact ⟨waits.hub.does does spares, waits.found⟩
  | joins joined =>
      obtain ⟨hub, join, rfl⟩ := joinNode?_eq_some joined
      refine ⟨waits.hub.does (.join .node join)
        (Deed.Plain.spares trivial), ?_⟩
      rw [node?, List.find?_append]
      exact congrArg (fun found => Option.or found _) waits.found
  | asks caller request =>
      refine ⟨?_, ?_⟩
      · rw [(cluster.callAll_frame caller request).1]
        exact waits.hub
      · rw [node?_callAll (fun entry asked => waits.hub.unasked asked)]
        exact waits.found
  | tracks address => exact ⟨reads address, waits.found⟩
  | works address =>
      obtain ⟨hub, found⟩ := work_spares quiet address
      refine ⟨?_, found.trans waits.found⟩
      rcases hub with same | read
      · rw [same]
        exact waits.hub
      · rw [read]
        exact reads address
  | changes change named spares =>
      refine ⟨waits.hub, (find?_map_of_named named cluster.nodes node.address).trans ?_⟩
      have found : cluster.nodes.find? (fun other => decide (other.address = node.address)) =
        some node := waits.found
      rw [found, Option.map_some, spares node rfl]
  | notes => exact ⟨waits.hub, waits.found⟩

theorem Waits.meanwhile (waits : cluster.Waits node)
    (happens : Meanwhile node.address cluster after) : after.Waits node := by
  induction happens with
  | refl => exact waits
  | tail _ step induction => exact induction.elsewhere step

/-! ## What the program does elsewhere -/

theorem meanwhile_isolate (cluster : Cluster) (me address : Address) :
    Meanwhile me cluster (cluster.isolate address) :=
  .single (.uses (.isolate address) (Deed.Plain.spares trivial))

theorem meanwhile_heal (cluster : Cluster) (me address : Address) :
    Meanwhile me cluster (cluster.heal address) :=
  .single (.uses (.heal address) (Deed.Plain.spares trivial))

/-- Everybody may read what has arrived. -/
theorem meanwhile_settle (cluster : Cluster) (me : Address) :
    Meanwhile me cluster cluster.settle := by
  have each {step : Cluster → Address → Cluster}
      (happens : ∀ cluster address, Elsewhere me cluster (step cluster address))
      (addresses : List Address) (cluster : Cluster) :
      Meanwhile me cluster (addresses.foldl step cluster) := by
    induction addresses generalizing cluster with
    | nil => exact .refl
    | cons head rest induction => exact .head (happens cluster head) (induction _)
  exact (each (@Elsewhere.tracks me) _ cluster).trans (each (@Elsewhere.works me) _ _)

/-- A coordinator may attach. -/
theorem meanwhile_startCoordinator (cluster : Cluster) (me : Address) :
    Meanwhile me cluster cluster.startCoordinator.2 := by
  rw [startCoordinator]
  split
  · rename_i address hub attached
    have attaches : Elsewhere me cluster (cluster.withHub hub) :=
      .uses (.attach attached) (Deed.Plain.spares trivial)
    have known : Elsewhere me (cluster.withHub hub) { cluster with
        hub
        coordinators := cluster.coordinators ++ [⟨address, .empty, .empty⟩] } :=
      .notes cluster.seed cluster.accounts _ cluster.received cluster.notices
    exact .head attaches (.head known (meanwhile_settle _ me))
  · exact .refl

/-- A guest may join the multicast group or attach. -/
theorem meanwhile_startGuest (cluster : Cluster) (me : Address) (state : Option StateSource) :
    Meanwhile me cluster (cluster.startGuest state).2 := by
  unfold startGuest
  split
  · rename_i address hub joined
    have enters : Elsewhere me cluster (cluster.withHub hub) := by
      cases state with
      | some source =>
          exact .uses (.join source joined) (Deed.Plain.spares trivial)
      | none =>
          exact .uses (.attach joined) (Deed.Plain.spares trivial)
    exact .head enters (meanwhile_settle _ me)
  · exact .refl

/-- A guest may join the RPC group. -/
theorem meanwhile_serveGuest {guest : Address}
    (present : guest ∈ cluster.hub.members.map Member.address) (differ : guest ≠ me)
    (rule : Request.Kind → Option Reply) :
    Meanwhile me cluster (cluster.serveGuest guest rule).2 := by
  rw [serveGuest]
  split
  · rename_i rpc hub joinRpc
    have enters : Elsewhere me cluster (cluster.withHub hub) :=
      .uses (.joinRpc guest (.guest guest rule) present joinRpc)
        (Deed.spares_joinedRpc differ (by simp))
    exact .head enters (meanwhile_settle _ me)
  · exact .refl

/-- A change of one other node. -/
theorem elsewhere_modifyNode (differ : address ≠ me) {change : Node → Node}
    (named : ∀ node, (change node).address = node.address) :
    Elsewhere me cluster (cluster.modifyNode address change) := by
  refine .changes _ (fun node => ?_) fun node isMe => if_neg ?_
  · split
    · exact named node
    · rfl
  · rintro rfl
    exact differ isMe

/-- Another process may leave. -/
theorem meanwhile_leave (present : address ∈ cluster.hub.members.map Member.address)
    (differ : address ≠ me) : Meanwhile me cluster (cluster.leave address) := by
  have left : Elsewhere me cluster (cluster.withHub (cluster.hub.leave address)) :=
    .uses (.leave address present) (Deed.spares_left differ)
  exact .head left (meanwhile_settle _ me)

/-- Another node may stop. -/
theorem meanwhile_stopNode (present : address ∈ cluster.hub.members.map Member.address)
    (differ : address ≠ me) : Meanwhile me cluster (cluster.stopNode address) := by
  exact (meanwhile_leave present differ).tail (elsewhere_modifyNode differ fun _ => rfl)

/-- An attempt to get a state concerns the node that makes it. -/
theorem attempt_frame (cluster : Cluster) (address : Address) :
    (cluster.attempt address).after = cluster ∨ ∃ replica : Node → Replica,
      (cluster.attempt address).after =
        cluster.modifyNode address fun node => { node with replica := replica node } := by
  rw [attempt]
  split
  · split
    · exact .inr ⟨_, rfl⟩
    · exact .inl rfl
  · split
    · split
      · exact .inr ⟨_, rfl⟩
      · exact .inr ⟨_, rfl⟩
    · exact .inl rfl

theorem hub_attempt (cluster : Cluster) (address : Address) :
    (cluster.attempt address).after.hub = cluster.hub := by
  rcases cluster.attempt_frame address with same | ⟨replica, changed⟩
  · rw [same]
  · rw [changed]
    rfl

/-- Another node may try to get a state. -/
theorem meanwhile_attempt (differ : address ≠ me) :
    Meanwhile me cluster (cluster.attempt address).after := by
  rcases cluster.attempt_frame address with same | ⟨replica, changed⟩
  · rw [same]
  · rw [changed]
    exact .single (elsewhere_modifyNode differ fun _ => rfl)

/-- A node that has its state finds no address left for it, or joins the RPC group and announces
itself. -/
theorem beginServing_cases (cluster : Cluster) (address : Address) :
    cluster.beginServing address = (.error .overflow, cluster) ∨
      ∃ rpc hub, cluster.hub.joinRpc? address (.node address) = some (rpc, hub) ∧
        ((∃ fault, hub.announce address rpc = .error fault ∧
            cluster.beginServing address = (.error fault, cluster.withHub hub)) ∨
          ∃ after, hub.announce address rpc = .ok after ∧
            cluster.beginServing address = (.ok rpc, (cluster.withHub after).modifyNode address
              fun node => { node with phase := .serving })) := by
  cases joinRpc : cluster.hub.joinRpc? address (.node address) with
  | none =>
      refine .inl ?_
      simp only [beginServing, joinRpc]
  | some pair =>
      obtain ⟨rpc, hub⟩ := pair
      refine .inr ⟨rpc, hub, rfl, ?_⟩
      cases announced : hub.announce address rpc with
      | error fault =>
          refine .inl ⟨fault, rfl, ?_⟩
          simp only [beginServing, joinRpc, announced]
          rfl
      | ok after =>
          refine .inr ⟨after, rfl, ?_⟩
          simp only [beginServing, joinRpc, announced]
          rfl

/-- Another node that has its state may join the RPC group and announce itself. -/
theorem meanwhile_beginServing (present : address ∈ cluster.hub.members.map Member.address)
    (differ : address ≠ me) : Meanwhile me cluster (cluster.beginServing address).2 := by
  rcases cluster.beginServing_cases address with
    refused | ⟨rpc, hub, joinRpc, ⟨fault, -, unheard⟩ | ⟨after, announced, begun⟩⟩
  · rw [refused]
  all_goals
    have enters : Elsewhere me cluster (cluster.withHub hub) :=
      .uses (.joinRpc address (.node address) present joinRpc)
        (Deed.spares_joinedRpc differ fun same => differ (Answerer.node.inj same))
  · rw [unheard]
    exact .single enters
  · have tells : Elsewhere me (cluster.withHub hub) (cluster.withHub after) :=
      .uses (Hub.Does.of_announce announced) ⟨nofun, nofun, nofun⟩
    rw [begun]
    exact .head enters (.head tells (.single (elsewhere_modifyNode differ fun _ => rfl)))

/-- Another node may start, whatever comes of it. -/
theorem Waits.startNode (waits : cluster.Waits node) :
    Meanwhile node.address cluster cluster.startNode.2 := by
  rw [Cluster.startNode, startNodeAmid]
  split
  · exact .refl
  · rename_i other joined isJoined
    have joins : Meanwhile node.address cluster joined := .single (.joins isJoined)
    obtain ⟨hub, join, isAfter⟩ := joinNode?_eq_some isJoined
    have isMember : node.address ∈ cluster.hub.members.map Member.address :=
      (cluster.hub.standing_isSome _).mp (by rw [waits.hub.standing]; rfl)
    have differ : other ≠ node.address :=
      (waits.hub.enumerated.numbered.ne_of_join join isMember).symm
    have present : other ∈ joined.hub.members.map Member.address := by
      rw [isAfter, Hub.addresses_of_join join]
      exact List.mem_append_right _ (List.mem_singleton_self other)
    have tries : Meanwhile node.address joined (joined.attempt other).after :=
      meanwhile_attempt differ
    have same := joined.hub_attempt other
    rw [initialise]
    generalize joined.attempt other = attempt at tries same ⊢
    have settled := (joins.trans tries).trans (meanwhile_settle _ node.address)
    cases attempt with
    | failed fault after => exact settled
    | blocked fault after => exact settled
    | ready ready =>
        have begins : Meanwhile node.address ready (ready.beginServing other).2 :=
          meanwhile_beginServing (by rw [← same] at present; exact present) differ
        exact ((joins.trans tries).trans begins).trans (meanwhile_settle _ _)

end Cluster

end AuctionHouse
