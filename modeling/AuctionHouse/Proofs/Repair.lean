import AuctionHouse.Proofs.Asking

/-!
# Carrying out repairs

A plan of repairs that names each target once, and whose sources are no targets, comes out the same
in whatever order it is carried out: each target that can be told and can fetch its source's state
has that state, and everything else is as before.
-/

namespace AuctionHouse

/-! ## Giving commands -/

/-- The commands of a plan that reach a member. -/
def Hub.commandsFor {source handler : Type} (hub : Hub source handler) (me : Address)
    (plan : List (Address × Address)) (member : Member source) : List Event :=
  if member.isSubscribed = true ∧ member.address ≠ me ∧ hub.isReachable me = true ∧
      hub.isReachable member.address = true then
    ((plan.lookup member.address).map fun peer => Event.message me (.command .sync peer)).toList
  else
    []

theorem Hub.sendSync_eq {source handler : Type} (hub : Hub source handler)
    (sender target peer : Address) :
    hub.sendSync sender target peer =
      if hub.isSubscriber target then
        .ok (hub.withQueues fun member =>
          member.queue ++ hub.commandsFor sender [(target, peer)] member)
      else .error (.unreachable target) := by
  rw [sendSync, send]
  cases subscribes : hub.isSubscriber target with
  | false => simp [Option.filter, subscribes]
  | true =>
      simp only [Option.filter, subscribes, Bool.not_true, Bool.false_eq_true, if_false, if_true]
      by_cases connected : hub.isReachable sender = true
      · rw [if_pos connected, Wire.transmit_of_survives (Wire.survives_envelope _)]
        simp only [deliver_eq]
        refine congrArg Except.ok (withQueues_congr fun member _ => ?_)
        have chosen : (member.isSubscribed && (decide (member.address ≠ sender) &&
            hub.isReachable member.address &&
              (some target).all fun only => decide (member.address = only))) = true ↔
            (member.isSubscribed = true ∧ member.address ≠ sender ∧
              hub.isReachable sender = true ∧ hub.isReachable member.address = true) ∧
              member.address = target := by
          simp [connected, and_assoc]
        rw [commandsFor]
        by_cases same : member.address = target
        · subst same
          simp only [chosen, and_true, List.lookup_cons, beq_self_eq_true]
          split
          · rfl
          · rw [List.append_nil]
        · have other : (member.address == target) = false := by simpa using same
          simp [same, List.lookup_cons, other]
      · rw [if_neg connected]
        refine congrArg Except.ok (withQueues_self fun member _ => ?_).symm
        simp [commandsFor, connected]

namespace Cluster

/-- The hub after the commands of a plan have been given. -/
def commanded (cluster : Cluster) (me : Address) (plan : List (Address × Address)) :
    Hub StateSource Answerer :=
  cluster.hub.withQueues fun member => member.queue ++ cluster.hub.commandsFor me plan member

/-- Giving one command notes it and, if that is possible, delivers it. -/
theorem carryOut_cons (me : Address) (cluster : Cluster) (target peer : Address)
    (rest : List (Address × Address)) :
    ∃ more, carryOut me cluster ((target, peer) :: rest) =
      carryOut me
        ((cluster.revise Node.replica more).withHub (cluster.commanded me [(target, peer)]))
        rest := by
  rw [carryOut, tellToCopy, note_eq, hub_revise, Hub.sendSync_eq]
  split
  · rename_i told sent
    split at sent
    · rename_i hub delivered
      split at delivered
      · obtain rfl := Except.ok.inj delivered
        obtain rfl := (Prod.mk.inj sent).2
        exact ⟨_, rfl⟩
      · simp at delivered
    · simp at sent
  · rename_i fault noted sent
    split at sent
    · simp at sent
    · rename_i reason undelivered
      split at undelivered
      · simp at undelivered
      · rename_i unknown
        obtain rfl := (Prod.mk.inj sent).2
        refine ⟨[.told me target peer, .undelivered target fault], ?_⟩
        have hub : cluster.commanded me [(target, peer)] = cluster.hub := by
          refine Hub.withQueues_self fun member listed => ?_
          have elsewhere : member.isSubscribed = true → member.address ≠ target := by
            intro subscribed same
            exact unknown (List.any_eq_true.mpr ⟨member, listed, by simp [subscribed, same]⟩)
          rw [Hub.commandsFor]
          split
          · rename_i delivered
            have other : (member.address == target) = false := by simpa using elsewhere delivered.1
            simp [List.lookup_cons, other]
          · rw [List.append_nil]
        rw [note_eq, revise_revise, hub]
        rfl

/-- The commands of a plan are given one after the other. -/
theorem carryOut_split (me : Address) (cluster : Cluster) (step : Address × Address)
    (rest : List (Address × Address)) :
    carryOut me cluster (step :: rest) = carryOut me (carryOut me cluster [step]) rest := by
  obtain ⟨target, peer⟩ := step
  simp only [carryOut]
  cases cluster.tellToCopy me target peer with
  | mk delivered told =>
      cases delivered with
      | ok _ => rfl
      | error fault => rfl

/-- No node changes when commands are given. -/
theorem nodes_carryOut (me : Address) (cluster : Cluster) (plan : List (Address × Address)) :
    (carryOut me cluster plan).nodes = cluster.nodes := by
  induction plan generalizing cluster with
  | nil => rfl
  | cons step rest induction =>
      obtain ⟨more, carried⟩ := carryOut_cons me cluster step.1 step.2 rest
      rw [carried, induction]
      simp

theorem lookup_eq_none {plan : List (Address × Address)} {target : Address}
    (absent : target ∉ plan.map Prod.fst) : plan.lookup target = none := by
  refine List.lookup_eq_none_iff.mpr fun step member => bne_iff_ne.mpr fun same => ?_
  exact absent (same ▸ List.mem_map_of_mem member)

/-- Giving the commands of a plan notes them and delivers those that can be delivered. -/
theorem carryOut_eq (me : Address) (cluster : Cluster) {plan : List (Address × Address)}
    (once : (plan.map Prod.fst).Nodup) :
    ∃ more, (plan = [] → more = []) ∧
      carryOut me cluster plan =
        (cluster.revise Node.replica more).withHub (cluster.commanded me plan) := by
  induction plan generalizing cluster with
  | nil =>
      have hub : cluster.commanded me [] = cluster.hub :=
        Hub.withQueues_self fun member _ => by simp [Hub.commandsFor]
      refine ⟨[], fun _ => rfl, ?_⟩
      rw [hub, revise_self fun _ _ => rfl]
      rfl
  | cons head rest induction =>
      obtain ⟨target, peer⟩ := head
      obtain ⟨fresh, once⟩ := List.nodup_cons.mp once
      obtain ⟨first, told⟩ := carryOut_cons me cluster target peer rest
      obtain ⟨others, -, done⟩ := induction
        ((cluster.revise Node.replica first).withHub (cluster.commanded me [(target, peer)])) once
      refine ⟨first ++ others, by simp, ?_⟩
      have hub : ((cluster.revise Node.replica first).withHub
          (cluster.commanded me [(target, peer)])).commanded me rest =
          cluster.commanded me ((target, peer) :: rest) := by
        refine (Hub.withQueues_withQueues _ _ _).trans (Hub.withQueues_congr fun member _ => ?_)
        rw [List.append_assoc]
        refine congrArg (member.queue ++ ·) ?_
        change cluster.hub.commandsFor me [(target, peer)] member ++
          cluster.hub.commandsFor me rest member = _
        simp only [Hub.commandsFor]
        split
        · by_cases same : member.address = target
          · rw [same, lookup_eq_none fresh]
            simp
          · have other : (member.address == target) = false := by simpa using same
            simp [List.lookup_cons, other]
        · rfl
      rw [told, done, revise_withHub, withHub_withHub, revise_revise, hub]

/-! ## Carrying the commands out -/

/-- A node's replica after a plan has been carried out. -/
def afterPlan (cluster : Cluster) (plan : List (Address × Address)) (node : Node) : Replica :=
  match plan.lookup node.address with
  | some source => cluster.copied node.address node.replica source
  | none => node.replica

/-- A plan among serving nodes that names each target once and in which no source is a target. -/
structure Feasible (cluster : Cluster) (me : Address) (plan : List (Address × Address)) :
    Prop where
  once : (plan.map Prod.fst).Nodup
  targets : ∀ step ∈ plan, step.1 ∈ cluster.running.map Node.address
  sources : ∀ step ∈ plan, step.2 ∈ cluster.running.map Node.address
  others : ∀ step ∈ plan, step.1 ≠ me
  apart : ∀ step ∈ plan, step.2 ∉ plan.map Prod.fst
  connected : plan ≠ [] → cluster.hub.isReachable me = true

theorem mem_of_lookup {plan : List (Address × Address)} {target source : Address}
    (found : plan.lookup target = some source) : (target, source) ∈ plan := by
  obtain ⟨before, after, rfl, -⟩ := List.lookup_eq_some_iff.mp found
  simp

theorem lookup_of_mem {plan : List (Address × Address)} (once : (plan.map Prod.fst).Nodup)
    {step : Address × Address} (member : step ∈ plan) : plan.lookup step.1 = some step.2 := by
  obtain ⟨before, after, rfl⟩ := List.append_of_mem member
  refine List.lookup_eq_some_iff.mpr ⟨before, after, rfl, fun other earlier => ?_⟩
  rw [List.map_append] at once
  have apart := List.disjoint_of_nodup_append once (List.mem_map_of_mem earlier)
  exact bne_iff_ne.mpr fun same => apart (by simp [same])

/-- The cluster when the commands of a plan have been given but not yet carried out. -/
def pending (cluster : Cluster) (me : Address) (plan : List (Address × Address))
    (more : List Notice) : Cluster :=
  (cluster.revise Node.replica more).withHub (cluster.commanded me plan)

section Pending

variable {cluster : Cluster} {me : Address} {plan : List (Address × Address)} (more : List Notice)

private theorem nodes_pending : (cluster.pending me plan more).nodes = cluster.nodes := by
  simp [pending]

private theorem running_pending : (cluster.pending me plan more).running = cluster.running := by
  rw [running, nodes_pending]
  rfl

private theorem queueOf_pending (drained : cluster.Drained) {address : Address}
    (listens : address ∈ cluster.listeners) :
    (cluster.pending me plan more).hub.queueOf address =
      ((cluster.hub.member? address).map (cluster.hub.commandsFor me plan)).getD [] := by
  refine (Hub.queueOf_withQueues _ _ _).trans ?_
  cases found : cluster.hub.member? address with
  | none => rfl
  | some member =>
      obtain ⟨listed, named⟩ := Hub.mem_of_member? found
      simp [drained member listed (named ▸ listens)]

/-- Whoever is no target is told nothing. -/
private theorem queueOf_pending_of_not_mem (drained : cluster.Drained) {address : Address}
    (listens : address ∈ cluster.listeners) (absent : address ∉ plan.map Prod.fst) :
    (cluster.pending me plan more).hub.queueOf address = [] := by
  rw [queueOf_pending more drained listens]
  cases found : cluster.hub.member? address with
  | none => rfl
  | some member =>
      obtain ⟨-, named⟩ := Hub.mem_of_member? found
      simp [Hub.commandsFor, named, lookup_eq_none absent]

private theorem peersOf_pending (orderly : cluster.Orderly) {node : Node}
    (isRunning : node ∈ cluster.running) :
    (cluster.pending me plan more).peersOf node.address =
      if node.address ≠ me ∧ cluster.hub.isReachable me = true ∧
          cluster.hub.isReachable node.address = true then
        (plan.lookup node.address).toList
      else [] := by
  have listens : node.address ∈ cluster.listeners :=
    List.mem_append_right _ (List.mem_map_of_mem isRunning)
  obtain ⟨member, listed, named, subscribed, -⟩ := orderly.enrolled node isRunning
  have found : cluster.hub.member? node.address = some member :=
    named ▸ Hub.member?_eq_some orderly.members listed
  rw [peersOf, queueOf_pending more orderly.drained listens, found]
  simp only [Option.map_some, Option.getD_some, Hub.commandsFor, named, subscribed, true_and]
  split
  · cases plan.lookup node.address <;> rfl
  · rfl

private theorem copied_pending (address : Address) (replica : Replica) (peer : Address) :
    (cluster.pending me plan more).copied address replica peer =
      cluster.copied address replica peer := by
  refine copied_congr (Hub.sourceOf_withQueues _ _ _ _) ?_ replica
  rw [node?, nodes_pending]
  rfl

/-- Nobody can fetch a state while cut off. -/
theorem copied_of_unreachable {address : Address}
    (cut : ¬cluster.hub.isReachable address = true) (replica : Replica) (peer : Address) :
    cluster.copied address replica peer = replica := by
  have refused : cluster.fetchSnapshot address peer = .error (.unreachable peer) := by
    rw [fetchSnapshot, Hub.sourceOf_eq]
    simp [cut]
  rw [copied, refused]

private theorem afterQueue_pending (orderly : cluster.Orderly) (feasible : cluster.Feasible me plan)
    {node : Node} (isRunning : node ∈ cluster.running) :
    (cluster.pending me plan more).afterQueue node = cluster.afterPlan plan node := by
  rw [afterQueue, peersOf_pending more orderly isRunning, afterPlan]
  cases found : plan.lookup node.address with
  | none => simp
  | some source =>
      have step := mem_of_lookup found
      have teller := feasible.others _ step
      have connected := feasible.connected (List.ne_nil_of_mem step)
      by_cases reachable : cluster.hub.isReachable node.address = true
      · rw [if_pos ⟨teller, connected, reachable⟩]
        exact copied_pending more node.address node.replica source
      · rw [if_neg fun told => reachable told.2.2]
        exact (copied_of_unreachable reachable node.replica source).symm

end Pending

/-- In whatever order a feasible plan is carried out, it comes out as the plan says. -/
theorem settleIn_carryOut {cluster : Cluster} (orderly : cluster.Orderly) {me : Address}
    {plan : List (Address × Address)} (feasible : cluster.Feasible me plan)
    {order : List Address} (covers : ∀ node ∈ cluster.running, node.address ∈ order) :
    ∃ more, (plan = [] → more = []) ∧
      (carryOut me cluster plan).settleIn order = cluster.revise (cluster.afterPlan plan) more := by
  obtain ⟨told, quiet, given⟩ := carryOut_eq me cluster feasible.once
  have running : (cluster.pending me plan told).running = cluster.running := running_pending told
  have distinct : ((cluster.pending me plan told).nodes.map Node.address).Nodup := by
    rw [nodes_pending]
    exact orderly.nodes
  have apart : (cluster.pending me plan told).Apart := by
    rw [Apart, running]
    exact orderly.apart
  have idle {address : Address} (listens : address ∈ cluster.listeners)
      (absent : address ∉ plan.map Prod.fst) :
      (cluster.pending me plan told).peersOf address = [] := by
    rw [peersOf, queueOf_pending_of_not_mem told orderly.drained listens absent]
    rfl
  have untangled : (cluster.pending me plan told).Untangled := by
    intro node isRunning peer member
    rw [running] at isRunning
    rw [peersOf_pending told orderly isRunning] at member
    split at member
    · have step := mem_of_lookup (by simpa using member)
      exact idle (List.mem_append_right _ (feasible.sources _ step)) (feasible.apart _ step)
    · simp at member
  obtain ⟨noted, still, result⟩ := settleIn_eq distinct apart untangled (running ▸ covers)
  refine ⟨told ++ noted, fun nothing => ?_, ?_⟩
  · subst nothing
    rw [quiet rfl, still fun node isRunning => ?_, List.append_nil]
    rw [running] at isRunning
    exact idle (List.mem_append_right _ (List.mem_map_of_mem isRunning)) (by simp)
  · have hub : ((cluster.pending me plan told).settled noted).hub = cluster.hub := by
      refine (Hub.withQueues_withQueues _ _ _).trans (Hub.withQueues_self fun member listed => ?_)
      have listeners : (cluster.pending me plan told).listeners = cluster.listeners := by
        rw [Cluster.listeners, running]
        rfl
      rw [listeners]
      by_cases listens : member.address ∈ cluster.listeners
      · rw [if_pos listens, orderly.drained member listed listens]
      · have absent : member.address ∉ plan.map Prod.fst := by
          intro targeted
          obtain ⟨step, isStep, same⟩ := List.mem_map.mp targeted
          exact listens (List.mem_append_right _ (same ▸ feasible.targets step isStep))
        rw [if_neg listens]
        simp [Hub.commandsFor, lookup_eq_none absent]
    have coordinators : (cluster.pending me plan told).coordinators.map
        (cluster.pending me plan told).informed = cluster.coordinators := by
      refine (List.map_congr_left fun coordinator listed => ?_).trans (List.map_id _)
      have absent : coordinator.address ∉ plan.map Prod.fst := by
        intro targeted
        obtain ⟨step, isStep, same⟩ := List.mem_map.mp targeted
        obtain ⟨node, isRunning, named⟩ := List.mem_map.mp (feasible.targets step isStep)
        exact orderly.apart coordinator listed node isRunning (same.symm.trans named.symm)
      have listens : coordinator.address ∈ cluster.listeners :=
        List.mem_append_left _ (List.mem_map_of_mem listed)
      rw [informed, queueOf_pending_of_not_mem told orderly.drained listens absent]
      rfl
    have replicas : cluster.revise
          (fun node =>
            if node.phase = .serving then (cluster.pending me plan told).afterQueue node
            else node.replica)
          (told ++ noted) =
        cluster.revise (cluster.afterPlan plan) (told ++ noted) := by
      refine revise_congr _ fun node listed => ?_
      by_cases serving : node.phase = .serving
      · rw [if_pos serving]
        exact afterQueue_pending told orderly feasible (mem_running_iff.mpr ⟨listed, serving⟩)
      · have absent : node.address ∉ plan.map Prod.fst := by
          intro targeted
          obtain ⟨step, isStep, same⟩ := List.mem_map.mp targeted
          obtain ⟨other, isRunning, named⟩ := List.mem_map.mp (feasible.targets step isStep)
          obtain ⟨isNode, phase⟩ := mem_running_iff.mp isRunning
          obtain rfl := List.inj_on_of_nodup_map orderly.nodes isNode listed (named.trans same)
          exact serving phase
        rw [if_neg serving, afterPlan, lookup_eq_none absent]
    rw [given]
    refine result.trans ?_
    calc (cluster.pending me plan told).settled noted
        = { (cluster.revise Node.replica told).revise
              (fun node =>
                if node.phase = .serving then (cluster.pending me plan told).afterQueue node
                else node.replica)
              noted with
            hub := ((cluster.pending me plan told).settled noted).hub
            coordinators := (cluster.pending me plan told).coordinators.map
              (cluster.pending me plan told).informed } := rfl
      _ = cluster.revise (cluster.afterPlan plan) (told ++ noted) := by
        rw [hub, coordinators, revise_revise, replicas]
        rfl

end Cluster

end AuctionHouse
