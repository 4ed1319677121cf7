import AuctionHouse.Proofs.Steadiness
import AuctionHouse.Proofs.VoteOrder

/-!
# While nobody copies anything

As long as no node has fetched a state and none has been told to copy one, listeners change nothing
but queues and address books.  So a request finds each node as it was when the request was sent, in
whatever order the nodes work on it and whatever listeners do in between: the ballot is the one of a
round in which nobody listens.
-/

namespace AuctionHouse

namespace Hub

variable {source handler : Type} (hub : Hub source handler)

theorem queueOf_dequeue (address other : Address) :
    (hub.dequeue address).queueOf other =
      if other = address then (hub.queueOf other).tail else hub.queueOf other := by
  rw [dequeue, queueOf_withQueues, queueOf]
  cases found : hub.member? other with
  | none => simp
  | some member =>
      obtain ⟨-, named⟩ := mem_of_member? found
      simp only [Option.map_some, Option.getD_some, named]

/-- What waits when an event has been read waited before. -/
theorem mem_of_dequeue {address other : Address} {event : Event}
    (waits : event ∈ (hub.dequeue address).queueOf other) : event ∈ hub.queueOf other := by
  rw [queueOf_dequeue] at waits
  split at waits
  · exact List.mem_of_mem_tail waits
  · exact waits

end Hub

namespace Cluster

theorem mem_peersOf_iff {cluster : Cluster} {address peer : Address} :
    peer ∈ cluster.peersOf address ↔
      ∃ event ∈ cluster.hub.queueOf address, event.peer? = some peer :=
  List.mem_filterMap

end Cluster

namespace Scene

open Cluster

variable {me : Address} {request : Request} {scene after : Scene}

/-- Whom a node is told to copy after a listener has taken a step it was told to copy before. -/
theorem Listens.mem_peersOf (listens : scene.Listens after) {address peer : Address}
    (told : peer ∈ after.cluster.peersOf address) : peer ∈ scene.cluster.peersOf address := by
  obtain ⟨event, waits, names⟩ := mem_peersOf_iff.mp told
  refine mem_peersOf_iff.mpr ⟨event, ?_, names⟩
  cases listens with
  | note listed waiting => exact Hub.mem_of_dequeue _ waits
  | pass isRunning idle waiting unheard => exact Hub.mem_of_dequeue _ waits
  | fetch isRunning idle waiting told handed => exact Hub.mem_of_dequeue _ waits
  | miss isRunning idle waiting told refused => exact Hub.mem_of_dequeue _ waits
  | restore listed held => exact waits

/-- No node has fetched a state, and none has been told to copy one. -/
structure Calm (scene : Scene) : Prop where
  fetched : ∀ address, scene.fetched address = none
  untold : ∀ address ∈ scene.cluster.running.map Node.address,
    scene.cluster.peersOf address = []

/-- A node that listens where nothing is to be copied is told nothing. -/
theorem Calm.unheard (calm : scene.Calm) {node : Node} (isRunning : node ∈ scene.cluster.running)
    {event : Event} {rest : List Event}
    (waiting : scene.cluster.hub.queueOf node.address = event :: rest) : event.peer? = none := by
  have untold := calm.untold _ (List.mem_map_of_mem isRunning)
  rw [peersOf, waiting, List.filterMap_eq_nil_iff] at untold
  exact untold event List.mem_cons_self

/-- Listeners leave a scene calm, and they leave the nodes as they are. -/
theorem Calm.listens (calm : scene.Calm) (listens : scene.Listens after) :
    after.Calm ∧ after.cluster.nodes = scene.cluster.nodes := by
  have untold : ∀ address ∈ after.cluster.running.map Node.address,
      after.cluster.peersOf address = [] := by
    intro address isRunning
    rw [listens.steady.runningAddresses] at isRunning
    refine List.eq_nil_iff_forall_not_mem.mpr fun peer told => ?_
    have before := listens.mem_peersOf told
    rw [calm.untold address isRunning] at before
    contradiction
  cases listens with
  | note listed waiting => exact ⟨⟨calm.fetched, untold⟩, rfl⟩
  | pass isRunning idle waiting unheard => exact ⟨⟨calm.fetched, untold⟩, rfl⟩
  | fetch isRunning idle waiting told handed =>
      rw [calm.unheard isRunning waiting] at told
      contradiction
  | miss isRunning idle waiting told refused =>
      rw [calm.unheard isRunning waiting] at told
      contradiction
  | restore listed held =>
      rw [calm.fetched] at held
      contradiction

theorem Calm.meanwhile (calm : scene.Calm) (meanwhile : scene.Meanwhile after) :
    after.Calm ∧ after.cluster.nodes = scene.cluster.nodes :=
  meanwhile.keep (fun later => later.Calm ∧ later.cluster.nodes = scene.cluster.nodes)
    (fun kept listens =>
      ⟨(kept.1.listens listens).1, (kept.1.listens listens).2.trans kept.2⟩) ⟨calm, rfl⟩

/-- So does whoever works on a request, apart from the replica that serves it. -/
theorem Calm.answer (calm : scene.Calm) (request : Request) (answerer : Answerer) :
    Calm { scene with cluster := (scene.cluster.answer request answerer).2 } where
  fetched := calm.fetched
  untold := by
    intro address isRunning
    have hub := (scene.cluster.answer_frame request answerer).1
    rw [(steady_answer _ _ _).runningAddresses] at isRunning
    rw [peersOf, hub]
    exact calm.untold address isRunning

/-- A request that goes around in a calm scene finds each node as it was, so that the nodes that are
asked have served it once, and their replies are those that they would have given at once. -/
theorem Calm.fansOut (calm : scene.Calm) {entries : List (Address × Node)}
    (distinct : (scene.cluster.nodes.map Node.address).Nodup)
    (once : (entries.map fun entry => entry.2.address).Nodup)
    (present : ∀ entry ∈ entries, entry.2 ∈ scene.cluster.nodes)
    {asked : List (Address × Answerer)} {log : List Service}
    (isAsked : asked.Perm (entries.map fun entry => (entry.1, .node entry.2.address)))
    (fansOut : FansOut request scene asked log after) :
    after.Calm ∧
      after.cluster.nodes = (scene.cluster.revise
        (servedAt request (entries.map fun entry => entry.2.address)) []).nodes ∧
      (log.filterMap fun service => service.vote? request).Perm
        (entries.filterMap fun entry =>
          (entry.2.replica.reply? request).map fun reply => (entry.1, reply)) := by
  induction fansOut generalizing entries with
  | ended =>
      obtain rfl := List.map_eq_nil_iff.mp isAsked.symm.eq_nil
      exact ⟨calm, by simp [servedAt], .nil⟩
  | listen listens _ induction =>
      obtain ⟨still, nodes⟩ := calm.listens listens
      obtain ⟨kept, served, votes⟩ := induction still (nodes ▸ distinct) once (nodes ▸ present)
        isAsked
      refine ⟨kept, served.trans ?_, votes⟩
      rw [nodes_revise, nodes_revise, nodes]
  | @serve scene after entry asked others log picked _ induction =>
      have reordered := isAsked.symm.trans picked
      obtain ⟨⟨rpc, node⟩, isEntry, rfl⟩ :=
        List.mem_map.mp (reordered.mem_iff.mpr List.mem_cons_self)
      obtain ⟨front, back, rfl⟩ := List.append_of_mem isEntry
      have moved : (front ++ (rpc, node) :: back).Perm ((rpc, node) :: (front ++ back)) :=
        List.perm_middle
      have remain := (reordered.symm.trans (moved.map _)).cons_inv
      have addresses := moved.map fun entry => entry.2.address
      obtain ⟨fresh, once'⟩ := List.nodup_cons.mp (addresses.nodup_iff.mp once)
      have listed : node ∈ scene.cluster.nodes := present (rpc, node) isEntry
      have served := congrArg Prod.snd (answer_eq request distinct listed)
      have present' : ∀ entry ∈ front ++ back,
          entry.2 ∈ (scene.cluster.answer request (.node node.address)).2.nodes := by
        intro entry isOther
        rw [served]
        refine mem_nodes_of_servedAt (present entry ?_) fun same => ?_
        · exact moved.mem_iff.mpr (List.mem_cons_of_mem _ isOther)
        · exact fresh (List.mem_map.mpr ⟨entry, isOther, same⟩)
      have steady := steady_answer scene.cluster request (.node node.address)
      obtain ⟨kept, nodes, votes⟩ := induction (calm.answer request (.node node.address))
        (steady.addresses ▸ distinct) once' present' remain
      refine ⟨kept, ?_, ?_⟩
      · rw [nodes, Service.after]
        dsimp only
        rw [served, revise_servedAt fresh]
        refine congrArg (fun replica => (scene.cluster.revise replica []).nodes) ?_
        exact servedAt_congr request fun address => addresses.mem_iff.symm
      · have held : Service.replica? ⟨scene, rpc, .node node.address⟩ = some node.replica := by
          rw [Service.replica?]
          dsimp only
          rw [node?_eq_some distinct listed, Option.map_some]
        refine List.Perm.trans ?_ (moved.filterMap _).symm
        rw [List.filterMap_cons, List.filterMap_cons, Service.vote?_eq held]
        cases node.replica.reply? request with
        | none => exact votes
        | some received => exact votes.cons _

/-- When the request of a coordinator has gone around in a calm scene the nodes that were asked have
served it. -/
theorem Calm.asked (calm : scene.Calm) (manned : scene.cluster.Manned) {log : List Service}
    (fansOut : FansOut request scene (scene.cluster.hub.audience me) log after) :
    after.Calm ∧ after.cluster.nodes = (scene.cluster.asked me request).nodes ∧
      (log.filterMap fun service => service.vote? request).Perm (scene.cluster.votes me request) :=
  calm.fansOut manned.nodes (manned.reachedAddresses_nodup me)
    (fun _ isReached => (manned.of_reached isReached).1) (.of_eq (manned.audience_eq me)) fansOut

/-- A round in a calm scene has the ballot that it would have if nobody listened.  The nodes that
were asked have served the request by the time its repairs are ordered. -/
theorem Calm.round (calm : scene.Calm) (manned : scene.cluster.Manned)
    (storable : request.Storable) {log : List Service} {ballot : Ballot Reply}
    (round : Round me request scene log ballot after) :
    ballot = scene.cluster.ballotOf me request ∧
      ∃ gathered, FansOut request scene (scene.cluster.hub.audience me) log gathered ∧
        gathered.Calm ∧ gathered.cluster.nodes = (scene.cluster.asked me request).nodes ∧
        Tells me (gathered.cluster.repairs me ballot) gathered after := by
  obtain ⟨gathered, replies, fansOut, arrived, rfl, tells⟩ := round.of_storable storable
  obtain ⟨kept, nodes, votes⟩ := calm.asked manned fansOut
  refine ⟨?_, gathered, fansOut, kept, nodes, tells⟩
  rw [fansOut.steady.1.rpcView, Ballot.inViewOrder_eq_of_perm _ (manned.voters_nodup me request)
    (arrived.trans votes), manned.votes_inViewOrder, ballotOf]

/-- If nobody is to copy anything listeners are all there is. -/
theorem Tells.of_nil (tells : Tells me [] scene after) : scene.Meanwhile after := by
  generalize none : ([] : List (Address × Address)) = plan at tells
  induction tells with
  | ended => exact .refl
  | listen listens _ induction => exact .head listens (induction none)
  | tell => contradiction

/-- A calm scene stays calm in a round in which all replies are the same. -/
theorem Calm.round_of_few (calm : scene.Calm) (manned : scene.cluster.Manned)
    (storable : request.Storable) {log : List Service} {ballot : Ballot Reply}
    (round : Round me request scene log ballot after)
    (few : (scene.cluster.ballotOf me request).distinctValues < 2) :
    ballot = scene.cluster.ballotOf me request ∧ after.Calm ∧
      after.cluster.nodes = (scene.cluster.asked me request).nodes := by
  obtain ⟨isBallot, gathered, -, kept, nodes, tells⟩ := calm.round manned storable round
  rw [isBallot, repairs, if_pos few] at tells
  obtain ⟨still, same⟩ := kept.meanwhile tells.of_nil
  exact ⟨isBallot, still, same.trans nodes⟩

end Scene

end AuctionHouse
