import AuctionHouse.Proofs.BallotCount
import AuctionHouse.Proofs.Repair

/-!
# Rounds

The repairs of a round are a feasible plan: its source is the first voter of the winning entry, its
targets are voters of the other entries.  So a round has every node that is reached serve the
request once; then the dissenters that are known and can fetch it have the state of the first node
of the majority, and nobody else is changed.
-/

namespace AuctionHouse

namespace Ballot

variable {value : Type} [BEq value]

omit [BEq value] in
theorem dissenters_of_few {ballot : Ballot value} (few : ballot.distinctValues < 2) :
    ballot.dissenters = [] := by
  obtain ⟨entries⟩ := ballot
  match entries with
  | [] => rfl
  | [entry] => simp [dissenters, leads]
  | _ :: _ :: _ =>
      simp only [distinctValues, List.length_cons] at few
      omega

omit [BEq value] in
/-- Who is told to copy whose state: a dissenter is told to copy that of the first voter of the
winning entry. -/
theorem mem_repairPlan {ballot : Ballot value} {book : AddressBook} {step : Address × Address}
    (member : step ∈ ballot.repairPlan book) :
    ∃ winner first rest, ballot.majority? = some winner ∧ winner.2 = first :: rest ∧
      book.find? first = some step.2 ∧
        ∃ dissenter ∈ ballot.dissenters, book.find? dissenter = some step.1 := by
  rw [repairPlan] at member
  split at member
  · rename_i winner first rest wins
    split at member
    · rename_i source known
      obtain ⟨target, isTarget, rfl⟩ := List.mem_map.mp member
      obtain ⟨dissenter, dissents, named⟩ := List.mem_filterMap.mp isTarget
      exact ⟨(winner, first :: rest), first, rest, wins, rfl, known, dissenter, dissents, named⟩
    · simp at member
  · simp at member

omit [BEq value] in
/-- The targets are the dissenters whose multicast addresses are known, or nobody. -/
theorem targets_sublist (ballot : Ballot value) (book : AddressBook) :
    ((ballot.repairPlan book).map Prod.fst).Sublist (ballot.dissenters.filterMap book.find?) := by
  rw [repairPlan]
  split
  · split
    · simp [Function.comp_def]
    · exact List.nil_sublist _
  · exact List.nil_sublist _

end Ballot

/-- Replicas of one limit differ in their snapshots only. -/
theorem Replica.eq_of_snapshot {left right : Replica} (state : left.snapshot = right.snapshot)
    (limit : left.probeLimit = right.probeLimit) : left = right := by
  cases left
  cases right
  cases state
  cases limit
  rfl

namespace Cluster

/-- The ballot of a round. -/
def ballotOf (cluster : Cluster) (me : Address) (request : Request) : Ballot Reply :=
  .tally (cluster.votes me request)

/-- The repairs of a round. -/
def planOf (cluster : Cluster) (me : Address) (request : Request) : List (Address × Address) :=
  (cluster.ballotOf me request).repairPlan (cluster.bookOf me)

/-- The cluster in which a request has gone around and nobody has been repaired yet. -/
def asked (cluster : Cluster) (me : Address) (request : Request) : Cluster :=
  cluster.revise (cluster.afterRequest me request) []

/-- A node's replica after a round with its repairs. -/
def afterRound (cluster : Cluster) (me : Address) (request : Request) (node : Node) : Replica :=
  (cluster.asked me request).afterPlan (cluster.planOf me request)
    { node with replica := cluster.afterRequest me request node }

/-- Replies that are all the same lead to no repairs anyway. -/
theorem repairs_eq (cluster : Cluster) (me : Address) (ballot : Ballot Reply) :
    cluster.repairs me ballot = ballot.repairPlan (cluster.bookOf me) := by
  rw [repairs]
  split
  · rename_i few
    have targets := ballot.targets_sublist (cluster.bookOf me)
    rw [Ballot.dissenters_of_few few] at targets
    exact (List.map_eq_nil_iff.mp (List.eq_nil_of_sublist_nil targets)).symm
  · rfl

theorem repair_eq (cluster : Cluster) (me : Address) (ballot : Ballot Reply) :
    cluster.repair me ballot = carryOut me cluster (ballot.repairPlan (cluster.bookOf me)) := by
  rw [repair, repairs_eq]

/-- A round gives the reply that wins, or else finds that nobody replied. -/
theorem coordinate_fst (cluster : Cluster) (me : Address) (request : Request) :
    (cluster.coordinate me request).1 =
      (cluster.ballotRound me request).1.winner?.elim (.error .noReplies) .ok := by
  rw [coordinate]
  cases won : (cluster.ballotRound me request).1.winner? with
  | none => simp [won]
  | some reply => simp [won]

theorem settledRound_fst (cluster : Cluster) (me : Address) (request : Request) :
    (cluster.settledRound me request).1 =
      (cluster.ballotRound me request).1.winner?.elim (.error .noReplies) .ok :=
  cluster.coordinate_fst me request

/-- All texts that the serving nodes hold are short enough to travel. -/
def Storable (cluster : Cluster) : Prop :=
  ∀ node ∈ cluster.running, node.replica.snapshot.Storable

theorem storable_drifted : drifted.Storable := by
  have running : drifted.running = drifted.nodes := rfl
  unfold Storable
  rw [running]
  simp [drifted, Snapshot.Storable, Replica.fresh, Catalogue.empty, Replica.snapshot]

section Round

variable {cluster : Cluster} {me : Address} {request : Request}

theorem Manned.ballotRound_eq (manned : cluster.Manned) (storable : request.Storable) :
    cluster.ballotRound me request =
      (cluster.ballotOf me request,
        carryOut me (cluster.asked me request) (cluster.planOf me request)) := by
  rw [ballotRound, manned.callAll_eq me storable]
  simp only [hub_revise, manned.votes_inViewOrder, repair_eq]
  rfl

theorem Orderly.asked (orderly : cluster.Orderly) (me : Address) (request : Request) :
    (cluster.asked me request).Orderly := by
  refine orderly.revise (fun node _ => ?_) []
  rw [afterRequest]
  split
  · exact Replica.probeLimit_serve _ _
  · rfl

theorem voter_reached {vote : Address × Reply} (member : vote ∈ cluster.votes me request) :
    ∃ node, (vote.1, node) ∈ cluster.reached me ∧ node.replica.reply? request = some vote.2 := by
  obtain ⟨⟨rpc, node⟩, isReached, replied⟩ := List.mem_filterMap.mp member
  obtain ⟨reply, found, rfl⟩ := Option.map_eq_some_iff.mp replied
  exact ⟨node, isReached, found⟩

/-- What a coordinator has noted for somebody who was reached. -/
theorem Truthful.of_reached (truthful : cluster.Truthful me) (arranged : cluster.Arranged)
    {entry : Address × Node} (member : entry ∈ cluster.reached me) {multicast : Address}
    (known : (cluster.bookOf me).find? entry.1 = some multicast) :
    multicast = entry.2.address := by
  obtain ⟨-, listed, behind⟩ := arranged.of_reached member
  have told := truthful entry.1 listed multicast known
  rw [behind] at told
  exact (Option.some.inj told).symm

/-- A dissenter that is repaired and the node whose state it copies were both reached, and the
latter voted with the majority. -/
theorem step_of_planOf (arranged : cluster.Arranged) (truthful : cluster.Truthful me)
    {step : Address × Address} (member : step ∈ cluster.planOf me request) :
    ∃ winner first rest target source,
      (cluster.ballotOf me request).majority? = some winner ∧ winner.2 = first :: rest ∧
        (first, source) ∈ cluster.reached me ∧ source.address = step.2 ∧
        target ∈ cluster.reached me ∧ target.2.address = step.1 ∧
        target.1 ∈ (cluster.ballotOf me request).dissenters := by
  obtain ⟨winner, first, rest, wins, voters, knownSource, dissenter, dissents, knownTarget⟩ :=
    Ballot.mem_repairPlan member
  obtain ⟨founder, others, voters', founded, -⟩ := Ballot.winner_founded wins
  obtain ⟨rfl, rfl⟩ := List.cons.inj (voters.symm.trans voters')
  obtain ⟨source, sourceReached, -⟩ := voter_reached founded
  obtain ⟨vote, isVote, rfl⟩ := List.mem_map.mp (Ballot.dissenters_voted dissents)
  obtain ⟨target, targetReached, -⟩ := voter_reached isVote
  exact ⟨winner, first, rest, (vote.1, target), source, wins, voters, sourceReached,
    (truthful.of_reached arranged sourceReached knownSource).symm, targetReached,
    (truthful.of_reached arranged targetReached knownTarget).symm, dissents⟩

/-- Different reached nodes are noted under different addresses. -/
theorem targets_nodup (orderly : cluster.Orderly) (truthful : cluster.Truthful me) :
    ((cluster.planOf me request).map Prod.fst).Nodup := by
  have distinct := orderly.manned.voters_nodup me request
  refine ((Ballot.targets_sublist _ _).nodup ?_)
  refine List.pairwise_filterMap.mpr ((Ballot.dissenters_nodup distinct).imp_of_mem ?_)
  intro left right isLeft isRight differ target known other alsoKnown same
  have member {rpc : Address} (dissents : rpc ∈ (cluster.ballotOf me request).dissenters) :
      rpc ∈ cluster.hub.rpcView.members := by
    obtain ⟨vote, isVote, rfl⟩ := List.mem_map.mp (Ballot.dissenters_voted dissents)
    obtain ⟨node, isReached, -⟩ := voter_reached isVote
    exact (orderly.of_reached isReached).2.1
  exact differ (orderly.singly left (member isLeft) right (member isRight) (by
    rw [truthful left (member isLeft) target known,
      truthful right (member isRight) other alsoKnown, same]))

private theorem coordinates_of_known {rpc multicast : Address}
    (known : (cluster.bookOf me).find? rpc = some multicast) :
    ∃ coordinator ∈ cluster.coordinators, coordinator.address = me := by
  rw [bookOf] at known
  cases found : cluster.coordinator? me with
  | none => simp [found] at known
  | some coordinator =>
      exact ⟨coordinator, List.mem_of_find?_eq_some found, by simpa using List.find?_some found⟩

theorem feasible_planOf (orderly : cluster.Orderly) (truthful : cluster.Truthful me) :
    (cluster.asked me request).Feasible me (cluster.planOf me request) := by
  have running {address : Address} (isRunning : address ∈ cluster.running.map Node.address) :
      address ∈ (cluster.asked me request).running.map Node.address := by
    rw [Cluster.asked, runningAddresses_revise]
    exact isRunning
  refine ⟨targets_nodup orderly truthful, ?_, ?_, ?_, ?_, ?_⟩
  · intro step member
    obtain ⟨-, -, -, target, -, -, -, -, -, isReached, named, -⟩ :=
      step_of_planOf orderly.toArranged truthful member
    exact running (named ▸ List.mem_map_of_mem (orderly.of_reached isReached).1)
  · intro step member
    obtain ⟨-, first, -, -, source, -, -, isReached, named, -⟩ :=
      step_of_planOf orderly.toArranged truthful member
    exact running (named ▸ List.mem_map_of_mem (orderly.of_reached isReached).1)
  · intro step member same
    obtain ⟨-, -, -, target, -, -, -, -, -, isReached, named, -⟩ :=
      step_of_planOf orderly.toArranged truthful member
    obtain ⟨_, _, _, _, _, known, _⟩ := Ballot.mem_repairPlan member
    obtain ⟨coordinator, listed, isMe⟩ := coordinates_of_known known
    exact orderly.apart coordinator listed target.2 (orderly.of_reached isReached).1
      (by rw [isMe, named, same])
  · intro step member targeted
    obtain ⟨other, isStep, same⟩ := List.mem_map.mp targeted
    obtain ⟨winner, first, rest, -, source, wins, voters, sourceReached, sourceNamed, -⟩ :=
      step_of_planOf orderly.toArranged truthful member
    obtain ⟨-, -, -, target, -, -, -, -, -, targetReached, targetNamed, dissents⟩ :=
      step_of_planOf orderly.toArranged truthful isStep
    obtain ⟨-, targetListed, targetBehind⟩ := orderly.of_reached targetReached
    obtain ⟨-, sourceListed, sourceBehind⟩ := orderly.of_reached sourceReached
    -- the source would have voted both with the majority and against it
    have twice : target.1 = first := orderly.singly target.1 targetListed first sourceListed
      (by rw [targetBehind, sourceBehind, targetNamed, sourceNamed, same])
    refine Ballot.not_mem_winner (orderly.manned.voters_nodup me request) wins dissents ?_
    rw [twice, voters]
    exact List.mem_cons_self
  · intro nonempty
    obtain ⟨step, member⟩ := List.exists_mem_of_ne_nil _ nonempty
    obtain ⟨-, -, -, target, -, -, -, -, -, isReached, -⟩ :=
      step_of_planOf orderly.toArranged truthful member
    exact (mem_reached_iff.mp isReached).1

/-- A round with its repairs, in whatever order these are carried out. -/
theorem Orderly.round (orderly : cluster.Orderly) (truthful : cluster.Truthful me)
    (storable : request.Storable) {order : List Address}
    (covers : ∀ node ∈ cluster.running, node.address ∈ order) :
    ∃ more, (cluster.planOf me request = [] → more = []) ∧
      (cluster.ballotRound me request).2.settleIn order =
        cluster.revise (cluster.afterRound me request) more := by
  have covers' : ∀ node ∈ (cluster.asked me request).running, node.address ∈ order := by
    intro node isRunning
    have listed : node.address ∈ cluster.running.map Node.address := by
      rw [← runningAddresses_revise]
      exact List.mem_map_of_mem isRunning
    obtain ⟨old, wasRunning, same⟩ := List.mem_map.mp listed
    exact same ▸ covers old wasRunning
  obtain ⟨more, quiet, result⟩ := settleIn_carryOut (orderly.asked me request)
    (feasible_planOf orderly truthful) covers'
  refine ⟨more, quiet, ?_⟩
  rw [orderly.manned.ballotRound_eq storable, result, Cluster.asked, revise_revise]
  rfl

/-- A round as a coordinator takes it. -/
theorem Orderly.settledRound_eq (orderly : cluster.Orderly) (truthful : cluster.Truthful me)
    (storable : request.Storable) :
    ∃ more, (cluster.planOf me request = [] → more = []) ∧
      cluster.settledRound me request =
        ((cluster.ballotOf me request).winner?.elim (.error .noReplies) .ok,
          cluster.revise (cluster.afterRound me request) more) := by
  have feasible : (cluster.asked me request).Feasible me (cluster.planOf me request) :=
    feasible_planOf orderly truthful
  obtain ⟨told, -, given⟩ := carryOut_eq me (cluster.asked me request) feasible.once
  have addresses : (cluster.ballotRound me request).2.nodes.map Node.address =
      cluster.nodes.map Node.address := by
    rw [orderly.manned.ballotRound_eq storable, given, nodes_withHub, addresses_revise]
    exact addresses_revise _ _ _
  have covers : ∀ node ∈ cluster.running,
      node.address ∈ (cluster.ballotRound me request).2.nodes.map Node.address := by
    intro node isRunning
    rw [addresses]
    exact List.mem_map_of_mem (mem_running_iff.mp isRunning).1
  obtain ⟨more, quiet, result⟩ := orderly.round truthful storable covers
  refine ⟨more, quiet, ?_⟩
  have unfolded : cluster.settledRound me request =
      ((cluster.ballotRound me request).1.winner?.elim (.error .noReplies) .ok,
        (cluster.ballotRound me request).2.settle) := by
    rw [settledRound, coordinate]
    obtain ⟨ballot, after⟩ := cluster.ballotRound me request
    cases winner : ballot.winner? with
    | none => simp [winner]
    | some reply => simp [winner]
  rw [unfolded, settle, result, orderly.manned.ballotRound_eq storable]

/-- Where there is nothing to repair a round is over when the request has gone around. -/
theorem Orderly.settledRound_of_idle (orderly : cluster.Orderly) (storable : request.Storable)
    (idle : cluster.planOf me request = []) :
    (cluster.settledRound me request).2 = cluster.asked me request := by
  have feasible : (cluster.asked me request).Feasible me [] :=
    ⟨List.nodup_nil, by simp, by simp, by simp, by simp, by simp⟩
  have covers : ∀ node ∈ (cluster.asked me request).running,
      node.address ∈ (cluster.asked me request).nodes.map Node.address :=
    fun node isRunning => List.mem_map_of_mem (mem_running_iff.mp isRunning).1
  have unfolded : (cluster.settledRound me request).2 =
      (cluster.ballotRound me request).2.settle := rfl
  obtain ⟨more, quiet, result⟩ :=
    settleIn_carryOut (orderly.asked me request) feasible covers
  have unchanged : (cluster.asked me request).revise
      ((cluster.asked me request).afterPlan []) [] = cluster.asked me request :=
    revise_self fun _ _ => rfl
  rw [quiet rfl, unchanged] at result
  rw [unfolded, orderly.manned.ballotRound_eq storable, idle]
  exact result

/-! ## What a round does to one node -/

/-- Whoever is no target of the plan is not repaired. -/
theorem afterRound_of_spared {node : Node}
    (spared : node.address ∉ (cluster.planOf me request).map Prod.fst) :
    cluster.afterRound me request node = cluster.afterRequest me request node := by
  rw [afterRound, afterPlan, lookup_eq_none spared]

/-- A node that is not reached keeps its replica. -/
theorem Orderly.afterRound_of_unreached (orderly : cluster.Orderly)
    (truthful : cluster.Truthful me) {node : Node}
    (unreached : node.address ∉ cluster.reachedAddresses me) :
    cluster.afterRound me request node = node.replica := by
  rw [afterRound_of_spared, afterRequest, if_neg unreached]
  intro targeted
  obtain ⟨step, isStep, same⟩ := List.mem_map.mp targeted
  obtain ⟨-, -, -, target, -, -, -, -, -, isReached, named, -⟩ :=
    step_of_planOf orderly.toArranged truthful isStep
  exact unreached (List.mem_map.mpr ⟨target, isReached, named.trans same⟩)

theorem afterRequest_of_reached {entry : Address × Node} (member : entry ∈ cluster.reached me) :
    cluster.afterRequest me request entry.2 = (entry.2.replica.serve request).2 :=
  if_pos (List.mem_map_of_mem member)

/-- A node that does not dissent only serves the request. -/
theorem Orderly.afterRound_of_agreeing (orderly : cluster.Orderly)
    (truthful : cluster.Truthful me) {entry : Address × Node}
    (member : entry ∈ cluster.reached me)
    (agrees : entry.1 ∉ (cluster.ballotOf me request).dissenters) :
    cluster.afterRound me request entry.2 = (entry.2.replica.serve request).2 := by
  rw [afterRound_of_spared, afterRequest_of_reached member]
  intro targeted
  obtain ⟨step, isStep, same⟩ := List.mem_map.mp targeted
  obtain ⟨-, -, -, target, -, -, -, -, -, isReached, named, dissents⟩ :=
    step_of_planOf orderly.toArranged truthful isStep
  obtain ⟨-, listed, behind⟩ := orderly.of_reached member
  obtain ⟨-, targetListed, targetBehind⟩ := orderly.of_reached isReached
  have only : target.1 = entry.1 := orderly.singly target.1 targetListed entry.1 listed
    (by rw [targetBehind, behind, named, same])
  exact agrees (only ▸ dissents)

theorem Arranged.sourceOf_eq (arranged : cluster.Arranged) {node : Node}
    (isRunning : node ∈ cluster.running) (asking : Address) :
    cluster.hub.sourceOf asking node.address =
      if cluster.hub.isReachable asking && cluster.hub.isReachable node.address then .ok .node
      else .error (.unreachable node.address) := by
  obtain ⟨member, listed, named, subscribed, state, -⟩ := arranged.enrolled node isRunning
  have found : (cluster.hub.members.find? fun member =>
      member.isSubscribed && decide (member.address = node.address)) = some member := by
    cases found : cluster.hub.members.find? fun member =>
        member.isSubscribed && decide (member.address = node.address) with
    | none =>
        have absent := List.find?_eq_none.mp found member listed
        simp [subscribed, named] at absent
    | some other =>
        have isOther := List.find?_some found
        simp only [Bool.and_eq_true, decide_eq_true_eq] at isOther
        rw [List.inj_on_of_nodup_map arranged.members (List.mem_of_find?_eq_some found) listed
          (isOther.2.trans named.symm)]
  rw [Hub.sourceOf_eq, found]
  simp [state]

/-- What one node fetches from another. -/
theorem Arranged.fetchSnapshot_eq (arranged : cluster.Arranged) {node : Node}
    (isRunning : node ∈ cluster.running) (storable : node.replica.snapshot.Storable)
    (asking : Address) :
    cluster.fetchSnapshot asking node.address =
      if cluster.hub.isReachable asking && cluster.hub.isReachable node.address then
        .ok node.replica.snapshot
      else .error (.unreachable node.address) := by
  have found := node?_eq_some arranged.nodes (mem_running_iff.mp isRunning).1
  rw [fetchSnapshot, arranged.sourceOf_eq isRunning]
  by_cases connected :
      (cluster.hub.isReachable asking && cluster.hub.isReachable node.address) = true
  · simp only [if_pos connected, found, Wire.transmit_of_survives (Wire.survives_snapshot storable)]
    rfl
  · simp only [if_neg connected]

/-- What a node holds that was told to copy the state of another one. -/
theorem Orderly.copied_eq (orderly : cluster.Orderly) {node : Node}
    (isRunning : node ∈ cluster.running) (storable : node.replica.snapshot.Storable)
    (asking : Address) (replica : Replica) :
    cluster.copied asking replica node.address =
      if cluster.hub.isReachable asking && cluster.hub.isReachable node.address then
        replica.restore node.replica.snapshot
      else replica := by
  rw [copied, orderly.fetchSnapshot_eq isRunning storable]
  by_cases connected :
      (cluster.hub.isReachable asking && cluster.hub.isReachable node.address) = true
  · simp only [if_pos connected]
  · simp only [if_neg connected]

/-! ## What a round does to all nodes -/

@[simp]
theorem probeLimit_afterRound (node : Node) :
    (cluster.afterRound me request node).probeLimit = node.replica.probeLimit := by
  have served : (cluster.afterRequest me request node).probeLimit = node.replica.probeLimit := by
    rw [afterRequest]
    split
    · exact Replica.probeLimit_serve _ _
    · rfl
  rw [afterRound, afterPlan]
  split
  · rw [probeLimit_copied, served]
  · exact served

theorem Orderly.revise_afterRound (orderly : cluster.Orderly) (more : List Notice) :
    (cluster.revise (cluster.afterRound me request) more).Orderly :=
  orderly.revise (fun node _ => probeLimit_afterRound node) more

end Round

end Cluster

end AuctionHouse
