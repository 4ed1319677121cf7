import AuctionHouse.Proofs.Agreement
import AuctionHouse.Proofs.Calm

/-!
# In unison

Nodes that hold the same replica have nothing to copy but its state.  So whatever listeners do, and
in whatever order, such nodes go on holding the same: an operation has each of them serve its
request once, and gives what it would give on a single replica.

Only after an outcome that differs from itself has anybody been told to copy a state.  Then the next
request may find some nodes with repairs to be done.  As long as nobody sends one, all repairs copy
what everybody holds.
-/

namespace AuctionHouse

theorem Auction.conclude_beq_self_iff (auction : Auction) :
    (auction.conclude == auction.conclude) = true ↔ auction.Priced := by
  rw [conclude]
  split
  · rename_i beaten
    change (auction.bidderName == auction.bidderName &&
      (auction.bidderEmail == auction.bidderEmail &&
        auction.currentPrice == auction.currentPrice)) = true ↔ _
    obtain ⟨reserve, current, -⟩ := (Price.lt_iff _ _).mp beaten
    simp [Price.beq_self_iff, Auction.Priced, reserve, current]
  · change (auction.reservePrice == auction.reservePrice &&
      auction.currentPrice == auction.currentPrice) = true ↔ _
    simp [Price.beq_self_iff, Auction.Priced, and_comm]

/-- The last outcome agrees with itself, if there is one. -/
def Outcome.LastAgrees (outcomes : List Outcome) : Prop :=
  ∀ last ∈ outcomes.getLast?, last.Agrees last

@[simp]
theorem Outcome.lastAgrees_append (outcomes : List Outcome) (last : Outcome) :
    LastAgrees (outcomes ++ [last]) ↔ last.Agrees last := by
  simp [LastAgrees]

/-- If an outcome agrees with itself, so does the reply that it stems from. -/
theorem Operation.beq_self_of_agrees {operation : Operation} {accounts : Accounts} {reply : Reply}
    (kind : reply.kind = (operation.request accounts).kind)
    (agrees : (operation.outcome (.ok reply)).Agrees (operation.outcome (.ok reply))) :
    (reply == reply) = true := by
  refine reply.beq_self_iff.mpr fun auction removed => ?_
  subst removed
  cases operation with
  | close owner id => exact auction.conclude_beq_self_iff.mp agrees
  | _ => simp [Reply.kind, Operation.request, Request.kind] at kind

namespace Scene

open Cluster

/-- The nodes that serve hold the same replica, and nothing but its state can be had from them or
has been fetched by them.  There may be newcomers that have joined and do not serve yet; nobody is
told to copy their states. -/
structure Agreed (scene : Scene) (replica : Replica) (newcomers : List Node) : Prop where
  nodes : (scene.cluster.nodes.map Node.address).Nodup
  unanimous : scene.cluster.Unanimous replica
  storable : replica.snapshot.Storable
  handed : ∀ member ∈ scene.cluster.hub.members, member.isSubscribed = true →
    ∀ state ∈ member.source, state = .node ∧
      (member.address ∈ scene.cluster.running.map Node.address ∨
        member.address ∈ newcomers.map Node.address)
  told : ∀ address ∈ scene.cluster.running.map Node.address,
    ∀ peer ∈ scene.cluster.peersOf address, peer ∉ newcomers.map Node.address
  fetched : ∀ address snapshot, scene.fetched address = some snapshot →
    address ∈ scene.cluster.nodes.map Node.address ∧
      (address ∈ scene.cluster.running.map Node.address → snapshot = replica.snapshot)
  waiting : ∀ newcomer ∈ newcomers, newcomer ∈ scene.cluster.nodes ∧
    newcomer.phase ≠ .serving ∧ scene.fetched newcomer.address = none ∧
      scene.cluster.peersOf newcomer.address = []

variable {me : Address} {request : Request} {scene after : Scene} {replica : Replica}
  {newcomers : List Node}

/-- Whatever is fetched is the state that all hold. -/
theorem Agreed.of_fetch (agreed : scene.Agreed replica newcomers) {asking peer : Address}
    (old : peer ∉ newcomers.map Node.address) {snapshot : Snapshot}
    (handed : scene.cluster.fetchSnapshot asking peer = .ok snapshot) :
    snapshot = replica.snapshot := by
  cases source : scene.cluster.hub.sourceOf asking peer with
  | error fault =>
      rw [fetchSnapshot, source] at handed
      contradiction
  | ok state =>
      obtain ⟨member, listed, subscribed, named, gives⟩ := Hub.exists_of_sourceOf source
      obtain ⟨rfl, serves⟩ := named ▸ agreed.handed member listed subscribed state gives
      obtain ⟨node, isRunning, rfl⟩ := List.mem_map.mp (serves.resolve_right old)
      have found := node?_eq_some agreed.nodes (mem_running_iff.mp isRunning).1
      simp only [fetchSnapshot, source, found, agreed.unanimous node isRunning,
        Wire.transmit_of_survives (Wire.survives_snapshot agreed.storable)] at handed
      exact (Except.ok.inj handed).symm

/-- Whoever keeps their place goes on handing over what they did. -/
theorem Agreed.handed_steady (agreed : scene.Agreed replica newcomers)
    (steady : scene.cluster.Steady after.cluster) :
    ∀ member ∈ after.cluster.hub.members, member.isSubscribed = true →
      ∀ state ∈ member.source, state = .node ∧
        (member.address ∈ after.cluster.running.map Node.address ∨
          member.address ∈ newcomers.map Node.address) := by
  obtain ⟨queue, hub⟩ := steady.hub
  rw [hub, steady.runningAddresses]
  intro member listed
  obtain ⟨old, wasListed, rfl⟩ := List.mem_map.mp listed
  exact agreed.handed old wasListed

/-- Listeners leave all in agreement. -/
theorem Agreed.listens (agreed : scene.Agreed replica newcomers) (listens : scene.Listens after) :
    after.Agreed replica newcomers := by
  have steady := listens.steady
  have runs := steady.runningAddresses
  have nodes : (after.cluster.nodes.map Node.address).Nodup := steady.addresses ▸ agreed.nodes
  have handed := agreed.handed_steady steady
  have told : ∀ address ∈ after.cluster.running.map Node.address,
      ∀ peer ∈ after.cluster.peersOf address, peer ∉ newcomers.map Node.address := by
    intro address isRunning peer isPeer
    exact agreed.told address (runs ▸ isRunning) peer (listens.mem_peersOf isPeer)
  have quiet : ∀ newcomer ∈ newcomers, after.cluster.peersOf newcomer.address = [] := by
    intro newcomer isNew
    refine List.eq_nil_iff_forall_not_mem.mpr fun peer isPeer => ?_
    have before := listens.mem_peersOf isPeer
    rw [(agreed.waiting newcomer isNew).2.2.2] at before
    contradiction
  have waiting : ∀ newcomer ∈ newcomers, newcomer ∈ scene.cluster.nodes ∧
      newcomer.phase ≠ .serving ∧ scene.fetched newcomer.address = none ∧
        after.cluster.peersOf newcomer.address = [] := fun newcomer isNew =>
    ⟨(agreed.waiting newcomer isNew).1, (agreed.waiting newcomer isNew).2.1,
      (agreed.waiting newcomer isNew).2.2.1, quiet newcomer isNew⟩
  cases listens with
  | note listed found =>
      exact ⟨nodes, agreed.unanimous, agreed.storable, handed, told, agreed.fetched, waiting⟩
  | pass isRunning idle found unheard =>
      exact ⟨nodes, agreed.unanimous, agreed.storable, handed, told, agreed.fetched, waiting⟩
  | miss isRunning idle found names refused =>
      exact ⟨nodes, agreed.unanimous, agreed.storable, handed, told, agreed.fetched, waiting⟩
  | @fetch node event rest peer snapshot isRunning idle found names fetches =>
      have isPeer : peer ∈ scene.cluster.peersOf node.address :=
        mem_peersOf_iff.mpr ⟨event, by simp [found], names⟩
      have old := agreed.told _ (List.mem_map_of_mem isRunning) peer isPeer
      have same := agreed.of_fetch old fetches
      refine ⟨nodes, agreed.unanimous, agreed.storable, handed, told,
        fun address later isHeld => ?_, fun newcomer isNew => ?_⟩
      · by_cases itself : address = node.address
        · subst itself
          simp only [Function.update_self, Option.some.injEq] at isHeld
          exact ⟨List.mem_map_of_mem (mem_running_iff.mp isRunning).1, fun _ => isHeld ▸ same⟩
        · simp only [Function.update_of_ne itself] at isHeld
          exact agreed.fetched address later isHeld
      · obtain ⟨listed, outside, unfetched, unheard⟩ := waiting newcomer isNew
        have apart : newcomer.address ≠ node.address := by
          intro same
          obtain ⟨isNode, serving⟩ := mem_running_iff.mp isRunning
          obtain rfl := List.inj_on_of_nodup_map agreed.nodes listed isNode same
          exact outside serving
        exact ⟨listed, outside, (Function.update_of_ne apart _ _).trans unfetched, unheard⟩
  | @restore node snapshot listed isHeld =>
      refine ⟨nodes, fun changed isRunning => ?_, agreed.storable, handed, told,
        fun address later stillHeld => ?_, fun newcomer isNew => ?_⟩
      · obtain ⟨isNode, serving⟩ := mem_running_iff.mp isRunning
        obtain ⟨old, wasNode, rfl⟩ := List.mem_map.mp isNode
        by_cases itself : old.address = node.address
        · simp only [if_pos itself] at serving ⊢
          obtain rfl := List.inj_on_of_nodup_map agreed.nodes wasNode listed itself
          have runs := mem_running_iff.mpr ⟨wasNode, serving⟩
          rw [(agreed.fetched _ snapshot isHeld).2 (List.mem_map_of_mem runs),
            agreed.unanimous old runs]
          rfl
        · simp only [if_neg itself] at serving ⊢
          exact agreed.unanimous old (mem_running_iff.mpr ⟨wasNode, serving⟩)
      · by_cases itself : address = node.address
        · subst itself
          simp at stillHeld
        · simp only [Function.update_of_ne itself] at stillHeld
          rw [steady.addresses, runs]
          exact agreed.fetched address later stillHeld
      · obtain ⟨isNode, outside, unfetched, unheard⟩ := waiting newcomer isNew
        have apart : newcomer.address ≠ node.address := by
          intro same
          rw [same, isHeld] at unfetched
          contradiction
        refine ⟨List.mem_map.mpr ⟨newcomer, isNode, if_neg apart⟩, outside, ?_, unheard⟩
        exact (Function.update_of_ne apart _ _).trans unfetched

theorem Agreed.meanwhile (agreed : scene.Agreed replica newcomers)
    (meanwhile : scene.Meanwhile after) : after.Agreed replica newcomers :=
  meanwhile.keep (fun later => later.Agreed replica newcomers)
    (fun agreed listens => agreed.listens listens) agreed

/-- So do commands, if nobody is about to join. -/
theorem Agreed.command (agreed : scene.Agreed replica []) (step : Address × Address) :
    Agreed { scene with cluster := carryOut me scene.cluster [step] } replica [] := by
  have steady := steady_command scene.cluster me step
  have nodes := nodes_carryOut me scene.cluster [step]
  have running : (carryOut me scene.cluster [step]).running = scene.cluster.running := by
    rw [Cluster.running, nodes]
    rfl
  refine ⟨nodes ▸ agreed.nodes, fun node isRunning => ?_, agreed.storable,
    agreed.handed_steady steady, by simp, fun address snapshot isHeld => ?_, by simp⟩
  · exact agreed.unanimous node (running ▸ isRunning)
  · dsimp only
    rw [nodes, running]
    exact agreed.fetched address snapshot isHeld

theorem Agreed.tells (agreed : scene.Agreed replica []) {plan : List (Address × Address)}
    (tells : Tells me plan scene after) : after.Agreed replica [] :=
  tells.keep (fun later => later.Agreed replica []) (fun agreed listens => agreed.listens listens)
    (fun step _ agreed => agreed.command step) agreed

/-- Where nobody copies anything only the replicas matter. -/
theorem Agreed.of_calm {held : Replica} (agreed : scene.Agreed replica [])
    (steady : scene.cluster.Steady after.cluster) (calm : after.Calm)
    (unanimous : after.cluster.Unanimous held) (storable : held.snapshot.Storable) :
    after.Agreed held [] where
  nodes := steady.addresses ▸ agreed.nodes
  unanimous := unanimous
  storable := storable
  handed := agreed.handed_steady steady
  told := by simp
  fetched := by
    intro address snapshot isHeld
    rw [calm.fetched] at isHeld
    contradiction
  waiting := by simp

/-! ## Operations -/

section Operating

variable {before gathered : Scene} {log : List Service} {ballot : Ballot Reply}
  {operation : Operation} (agreed : scene.Agreed replica []) (calm : scene.Calm)
  (arranged : scene.cluster.Arranged)
include agreed calm arranged

/-- The fingerprint round finds nothing to repair. -/
theorem Agreed.prepares (prepares : Prepares me scene operation before) :
    before.Agreed replica [] ∧ before.Calm ∧ before.cluster.running = scene.cluster.running := by
  cases prepares with
  | verify => exact ⟨agreed, calm, rfl⟩
  | check asks round meanwhile =>
      have nothing : Request.fingerprint.Storable := trivial
      have few : (scene.cluster.ballotOf me .fingerprint).distinctValues < 2 := by
        refine agreed.unanimous.distinctValues_lt arranged (fun reply given => ?_)
          fun reply given => ?_
        · obtain rfl := Except.ok.inj given
          trivial
        · obtain rfl := Except.ok.inj given
          exact beq_self_eq_true replica.fingerprint
      obtain ⟨-, told, nodes⟩ := calm.round_of_few arranged.manned nothing round few
      obtain ⟨still, nodes'⟩ := told.meanwhile meanwhile
      rw [asked_fingerprint] at nodes
      have running : before.cluster.running = scene.cluster.running := by
        rw [Cluster.running, nodes', nodes]
        rfl
      have steady := round.steady.trans meanwhile.steady
      exact ⟨agreed.of_calm steady still (fun node isRunning =>
        agreed.unanimous node (running ▸ isRunning)) agreed.storable, still, running⟩

/-- When the request has gone around all nodes have served it. -/
theorem Agreed.asked (connected : scene.cluster.Connected me) (storable : request.Storable)
    (fansOut : FansOut request scene (scene.cluster.hub.audience me) log after) :
    after.Agreed (replica.serve request).2 [] ∧ after.Calm := by
  obtain ⟨still, nodes, -⟩ := calm.asked arranged.manned fansOut
  refine ⟨agreed.of_calm fansOut.steady.1 still (fun node isRunning => ?_)
    (Replica.storable_serve agreed.storable storable), still⟩
  have runs : node ∈ (scene.cluster.asked me request).running := by
    rwa [Cluster.running, nodes] at isRunning
  rw [Cluster.asked, running_revise] at runs
  obtain ⟨old, wasRunning, rfl⟩ := List.mem_map.mp runs
  obtain ⟨rpc, isReached⟩ := connected.exists_reached arranged wasRunning
  rw [← agreed.unanimous old wasRunning]
  exact afterRequest_of_reached isReached

/-- An operation on nodes that agree gives what it would give on a single replica, and leaves them
in agreement.  Nobody is told to copy a state, unless what it gives differs from itself. -/
theorem Agreed.performs (connected : scene.cluster.Connected me)
    (storable : (operation.request scene.cluster.accounts).Storable)
    (table : operation = .listings → scene.cluster.running ≠ [] → Text.Storable replica.listings)
    (performs : Performs me operation scene before log ballot after) :
    operation.gives ballot =
        operation.outcome
          (scene.cluster.answerOf replica (operation.request scene.cluster.accounts)) ∧
      after.Agreed (replica.serve (operation.request scene.cluster.accounts)).2 [] ∧
      (after.Calm ∨ ¬(operation.gives ballot).Agrees (operation.gives ballot)) := by
  obtain ⟨request, isRequest⟩ : ∃ request, request = operation.request scene.cluster.accounts :=
    ⟨_, rfl⟩
  obtain ⟨told, round, meanwhile⟩ := performs.round
  rw [← isRequest] at storable round ⊢
  obtain ⟨agreed', calm', running⟩ := agreed.prepares calm arranged performs.prepares
  have steady := performs.prepares.steady
  have arranged' := arranged.steady steady
  have connected' := connected.steady steady
  obtain ⟨isBallot, gathered, fansOut, -, -, tells⟩ := calm'.round arranged'.manned storable round
  obtain ⟨served, still⟩ := agreed'.asked calm' arranged' connected' storable fansOut
  have replies : before.cluster.running ≠ [] →
      ∀ reply, (replica.serve request).1 = .ok reply → reply.Storable := by
    intro inhabited reply given
    refine Replica.storable_reply agreed.storable (fun isTable => ?_) given
    exact table (Operation.eq_listings (isRequest.symm.trans isTable)) (running ▸ inhabited)
  have gives : operation.gives ballot =
      operation.outcome (scene.cluster.answerOf replica request) := by
    rw [Operation.gives, isBallot, agreed'.unanimous.winner_eq arranged' connected' replies,
      answerOf, answerOf, running]
  refine ⟨gives, (served.tells tells).meanwhile meanwhile, ?_⟩
  by_cases agrees : (operation.gives ballot).Agrees (operation.gives ballot)
  · left
    have few : (before.cluster.ballotOf me request).distinctValues < 2 := by
      by_cases deserted : before.cluster.running = []
      · have silent : before.cluster.votes me request = [] := by
          refine List.eq_nil_iff_forall_not_mem.mpr fun vote isVote => ?_
          obtain ⟨node, isReached, -⟩ := voter_reached isVote
          simpa [deserted] using (arranged'.of_reached isReached).1
        rw [ballotOf, silent]
        decide
      · refine agreed'.unanimous.distinctValues_lt arranged' (replies deserted)
          fun reply given => ?_
        rw [gives, answerOf, if_neg (running ▸ deserted), given] at agrees
        exact Operation.beq_self_of_agrees (isRequest ▸ Replica.kind_of_serve given) agrees
    obtain ⟨-, quiet, -⟩ := calm'.round_of_few arranged'.manned storable round few
    exact (quiet.meanwhile meanwhile).1
  · exact .inr agrees

end Operating

end Scene

end AuctionHouse
