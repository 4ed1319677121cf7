import AuctionHouse.Proofs.Starting

/-!
# When a start fails

A node that finds nobody to get a state from reads the seed file.  If the file is of no use the
start fails.  By then the node has joined the multicast group, and nothing takes it out again: it
stays behind as the only member and hands over its empty state to whoever asks.  The next node asks
it, so that node begins empty whatever the seed file then holds, whereas without the failed start it
would have begun with the contents of the file.
-/

namespace AuctionHouse

/-- A state that is not handed over is out of reach. -/
theorem Hub.eq_unreachable_of_sourceOf {source handler : Type} {hub : Hub source handler}
    {asking giving : Address} {fault : Fault}
    (refused : hub.sourceOf asking giving = .error fault) : fault = .unreachable giving := by
  rw [sourceOf_eq] at refused
  split at refused
  · cases found : (hub.members.find? fun member =>
        member.isSubscribed && decide (member.address = giving)).bind Member.source with
    | none =>
        rw [found] at refused
        exact (Except.error.inj refused).symm
    | some handed =>
        rw [found] at refused
        contradiction
  · exact (Except.error.inj refused).symm

/-- A seed file that cannot be read leaves a replica alone. -/
theorem Replica.seedFile_of_error {replica : Replica} {contents : Option (List UInt8)}
    {cause : SeedFault} (fails : (replica.seedFile contents).1 = .error cause)
    (unreadable : cause ≠ .overflow) : (replica.seedFile contents).2 = replica := by
  cases contents with
  | none => rfl
  | some bytes =>
      rw [seedFile, seed] at fails ⊢
      split at fails
      · rfl
      · split at fails
        · contradiction
        · exact absurd (Except.error.inj fails).symm unreadable

namespace Cluster

variable {cluster after : Cluster} {multicast rpc : Address} {joined : Hub StateSource Answerer}

/-- A state that cannot be fetched has nothing to do with the seed file. -/
theorem fetchSnapshot_ne_seed {asking giving : Address} {cause : SeedFault} :
    cluster.fetchSnapshot asking giving ≠ .error (.seed cause) := by
  have carried (snapshot : Snapshot) :
      (Wire.transmit snapshot).mapError Fault.wire ≠ .error (.seed cause) := by
    cases Wire.transmit snapshot <;> simp [Except.mapError]
  intro refused
  rw [fetchSnapshot] at refused
  split at refused
  · rename_i fault unreachable
    rw [Hub.eq_unreachable_of_sourceOf unreachable] at refused
    simp at refused
  · simp at refused
  · exact carried _ refused
  · split at refused
    · exact carried _ refused
    · simp at refused

/-- Joining the RPC group has nothing to do with the seed file. -/
theorem beginServing_ne_seed {cause : SeedFault} :
    (cluster.beginServing multicast).1 ≠ .error (.seed cause) := by
  intro fails
  rw [beginServing] at fails
  split at fails
  · simp at fails
  · rename_i rpc hub _
    obtain ⟨announced, succeeds, -⟩ := hub.exists_announce multicast rpc
    simp [succeeds] at fails

/-- A joining node that fails has found nobody else, and a seed file of no use. -/
theorem attempt_eq_failed {failed : Cluster} {hub : Hub StateSource Answerer}
    (fresh : ∀ other ∈ cluster.nodes, other.address ≠ multicast) {cause : SeedFault}
    (fails : (cluster.enlarged hub (cluster.joining multicast)).attempt multicast =
      .failed cause failed) :
    hub.multicastView.oldestOther? multicast = none ∧
      ∃ contents, cluster.seed = some contents ∧
        ((cluster.joining multicast).replica.seedFile contents).1 = .error cause ∧
        failed = cluster.enlarged hub ⟨multicast,
          ((cluster.joining multicast).replica.seedFile contents).2, .joining⟩ := by
  have modify (change : Node → Node) :
      (cluster.enlarged hub (cluster.joining multicast)).modifyNode multicast change = _ :=
    modifyNode_enlarged fresh hub change
  have listed : (cluster.enlarged hub (cluster.joining multicast)).node? multicast = _ :=
    node?_enlarged fresh hub
  have view : (cluster.enlarged hub (cluster.joining multicast)).hub = hub := rfl
  have seed : (cluster.enlarged hub (cluster.joining multicast)).seed = cluster.seed := rfl
  rw [attempt, view, seed] at fails
  cases oldest : hub.multicastView.oldestOther? multicast with
  | some peer =>
      simp only [oldest] at fails
      split at fails
      · contradiction
      · contradiction
  | none =>
      refine ⟨rfl, ?_⟩
      cases named : cluster.seed with
      | none => simp [oldest, named] at fails
      | some contents =>
          refine ⟨contents, rfl, ?_⟩
          simp only [oldest, named, listed, setReplica, modify] at fails
          split at fails
          · contradiction
          · rename_i seeded
            obtain ⟨rfl, rfl⟩ := Attempt.failed.inj fails
            rw [seeded]
            exact ⟨rfl, rfl⟩

/-- A node that fails to start has joined the multicast group, and nothing else. -/
theorem startNode_eq_failed
    (fresh : ∀ multicast joined, cluster.hub.join? .node = some (multicast, joined) →
      ∀ node ∈ cluster.nodes, node.address ≠ multicast) {cause : SeedFault}
    (start : cluster.startNode = (.error (.seed cause), after)) :
    ∃ multicast joined contents, cluster.hub.join? .node = some (multicast, joined) ∧
      joined.multicastView.oldestOther? multicast = none ∧ cluster.seed = some contents ∧
      ((cluster.joining multicast).replica.seedFile contents).1 = .error cause ∧
      after = (cluster.enlarged joined ⟨multicast,
        ((cluster.joining multicast).replica.seedFile contents).2, .joining⟩).settle := by
  rw [startNode, startNodeAmid] at start
  cases join : cluster.hub.join? .node with
  | none => simp [joinNode?, join] at start
  | some pair =>
      obtain ⟨multicast, joined⟩ := pair
      have joinNode : cluster.joinNode? =
          some (multicast, cluster.enlarged joined (cluster.joining multicast)) := by
        rw [joinNode?, join]
        rfl
      simp only [joinNode, initialise] at start
      cases attempted : (cluster.enlarged joined (cluster.joining multicast)).attempt
          multicast with
      | ready ready =>
          simp only [attempted] at start
          obtain ⟨same, -⟩ := Prod.mk.inj start
          cases begun : (ready.beginServing multicast).1 with
          | ok rpc => simp [begun, Except.map] at same
          | error fault =>
              rw [begun] at same
              obtain rfl := Except.error.inj same
              exact absurd begun beginServing_ne_seed
      | blocked fault waiting =>
          simp only [attempted] at start
          obtain ⟨same, -⟩ := Prod.mk.inj start
          obtain rfl := Except.error.inj same
          obtain ⟨-, peer, refused⟩ := attempt_eq_blocked attempted
          exact absurd refused fetchSnapshot_ne_seed
      | failed fault waiting =>
          obtain ⟨oldest, contents, named, failing, rfl⟩ :=
            attempt_eq_failed (fresh multicast joined join) attempted
          simp only [attempted] at start
          obtain ⟨same, rfl⟩ := Prod.mk.inj start
          obtain rfl := Fault.seed.inj (Except.error.inj same)
          exact ⟨multicast, joined, contents, rfl, oldest, named, failing, rfl⟩

/-- The cluster after a node has joined that could not be given a state. -/
def haunted (cluster : Cluster) (joined : Hub StateSource Answerer) (ghost : Address) : Cluster :=
  (cluster.enlarged joined (cluster.joining ghost)).quieted
    (cluster.enlarged joined (cluster.joining ghost)).listeners

theorem running_haunted (cluster : Cluster) (joined : Hub StateSource Answerer)
    (ghost : Address) : (cluster.haunted joined ghost).running = cluster.running := by
  have running : (cluster.haunted joined ghost).running =
      (cluster.nodes ++ [cluster.joining ghost]).filter fun node => node.phase = .serving := rfl
  rw [running, List.filter_append]
  exact List.append_nil _

/-- What a failed start comes to. -/
theorem Quiescent.startNode_failed (quiescent : cluster.Quiescent) {cause : SeedFault}
    (unreadable : cause ≠ .overflow)
    (start : cluster.startNode = (.error (.seed cause), after)) :
    ∃ ghost joined, cluster.hub.join? .node = some (ghost, joined) ∧
      cluster.hub.multicastView.members = [] ∧ after = cluster.haunted joined ghost := by
  obtain ⟨ghost, joined, contents, join, alone, -, fails, rfl⟩ :=
    startNode_eq_failed (fun _ _ join => quiescent.ne_of_join join) start
  refine ⟨ghost, joined, join, ?_, ?_⟩
  · refine List.eq_nil_iff_forall_not_mem.mpr fun other listed => ?_
    have only := List.find?_eq_none.mp alone other (by simp [Hub.view_of_join join, listed])
    exact quiescent.numbered.ne_of_join join (quiescent.grouped other listed) (by simpa using only)
  · rw [Replica.seedFile_of_error fails unreadable]
    exact quiescent.settle_enlarged join (fun address quiet => quiet.of_join join) rfl

/-- A failed start leaves nothing under way. -/
theorem Quiescent.haunted (quiescent : cluster.Quiescent) {ghost : Address}
    (join : cluster.hub.join? .node = some (ghost, joined)) :
    (cluster.haunted joined ghost).Quiescent := by
  have members : (cluster.haunted joined ghost).hub.members.map Member.address =
      cluster.hub.members.map Member.address ++ [ghost] :=
    (Hub.addresses_withQueues _ _).trans (Hub.addresses_of_join join)
  have coordinators : ∀ coordinator ∈ (cluster.haunted joined ghost).coordinators,
      ∃ old ∈ cluster.coordinators, old.address = coordinator.address := by
    intro coordinator listed
    obtain ⟨old, isCoordinator, rfl⟩ := List.mem_map.mp listed
    exact ⟨old, isCoordinator, rfl⟩
  constructor
  case nodes =>
    change ((cluster.nodes ++ [cluster.joining ghost]).map Node.address).Nodup
    rw [List.map_append]
    refine quiescent.nodes.append (by simp) ?_
    simpa [joining] using quiescent.ne_of_join join
  case apart =>
    intro coordinator listed node isRunning
    rw [running_haunted] at isRunning
    obtain ⟨old, isCoordinator, same⟩ := coordinators coordinator listed
    exact same ▸ quiescent.apart old isCoordinator node isRunning
  case drained => exact drained_quieted fun address listens => listens
  case numbered => exact (quiescent.numbered.of_join join).withQueues _
  case joined =>
    intro node listed
    rw [members]
    rcases List.mem_append.mp listed with before | new
    · exact List.mem_append_left _ (quiescent.joined node before)
    · obtain rfl := List.mem_singleton.mp new
      exact List.mem_append_right _ (List.mem_singleton_self _)
  case attached =>
    intro coordinator listed
    obtain ⟨old, isCoordinator, same⟩ := coordinators coordinator listed
    rw [members, ← same]
    exact List.mem_append_left _ (quiescent.attached old isCoordinator)
  case grouped =>
    intro address listed
    have view : (cluster.haunted joined ghost).hub.multicastView.members =
        cluster.hub.multicastView.members ++ [ghost] := by
      rw [← Hub.view_of_join join]
      rfl
    rw [view] at listed
    rw [members]
    rcases List.mem_append.mp listed with before | new
    · exact List.mem_append_left _ (quiescent.grouped address before)
    · exact List.mem_append_right _ new

/-- A node that failed to start hands over an empty state; everybody else goes on as before. -/
theorem Quiescent.fetchSnapshot_haunted (quiescent : cluster.Quiescent) {ghost : Address}
    (join : cluster.hub.join? .node = some (ghost, joined)) (asking giving : Address) :
    (cluster.haunted joined ghost).fetchSnapshot asking giving =
      if giving = ghost then
        if cluster.hub.isReachable asking && cluster.hub.isReachable ghost then
          .ok (cluster.joining ghost).replica.snapshot
        else .error (.unreachable ghost)
      else cluster.fetchSnapshot asking giving := by
  have same : (cluster.haunted joined ghost).fetchSnapshot asking giving =
      (cluster.enlarged joined (cluster.joining ghost)).fetchSnapshot asking giving :=
    fetchSnapshot_congr (Hub.sourceOf_withQueues _ _ _ _) rfl
  rw [same]
  exact quiescent.fetchSnapshot_enlarged join rfl (cluster.storable_joining ghost) asking giving

/-- The cluster when another seed file, or none, has been put in the place of the old one. -/
def reseeded (cluster : Cluster) (seed : Option (Option (List UInt8))) : Cluster :=
  { cluster with seed }

theorem Quiescent.reseeded (quiescent : cluster.Quiescent)
    (seed : Option (Option (List UInt8))) : (cluster.reseeded seed).Quiescent :=
  ⟨quiescent.nodes, quiescent.apart, quiescent.drained, quiescent.numbered, quiescent.joined,
    quiescent.attached, quiescent.grouped⟩

/-- A node that starts while the multicast group is empty begins as the seed file says. -/
theorem Quiescent.startNode_alone (quiescent : cluster.Quiescent)
    (empty : cluster.hub.multicastView.members = [])
    (start : cluster.startNode = (.ok (multicast, rpc), after)) :
    after.node? multicast =
      some ⟨multicast, .first cluster.settings cluster.seed, .serving⟩ := by
  obtain ⟨joined, given, join, anew, -, found⟩ := quiescent.startNode_ok start
  have alone : joined.multicastView.oldestOther? multicast = none := by
    simp [View.oldestOther?, Hub.view_of_join join, empty]
  rw [found, anew alone]

/-- A node that starts behind one that failed to begins with an empty state. -/
theorem Quiescent.startNode_haunted (quiescent : cluster.Quiescent)
    (empty : cluster.hub.multicastView.members = []) {ghost : Address}
    (join : cluster.hub.join? .node = some (ghost, joined)) (seed : Option (Option (List UInt8)))
    (start : ((cluster.haunted joined ghost).reseeded seed).startNode =
      (.ok (multicast, rpc), after)) :
    after.node? multicast = some ⟨multicast,
      .fresh cluster.settings.firstId cluster.settings.probeLimit, .serving⟩ := by
  have later := (quiescent.haunted join).reseeded seed
  obtain ⟨again, given, join', -, taken, found⟩ := later.startNode_ok start
  have members : ((cluster.haunted joined ghost).reseeded seed).hub.multicastView.members =
      [ghost] := by
    change joined.multicastView.members = [ghost]
    rw [Hub.view_of_join join, empty]
    rfl
  have apart : ghost ≠ multicast := later.numbered.ne_of_join join'
    (later.grouped ghost (by simp [members]))
  have oldest : again.multicastView.oldestOther? multicast = some ghost := by
    simp [View.oldestOther?, Hub.view_of_join join', members, apart]
  obtain ⟨snapshot, fetched, rfl⟩ := taken ghost oldest
  rw [later.fetchSnapshot_enlarged join' rfl (storable_joining _ multicast), if_neg apart]
    at fetched
  have handed : (cluster.haunted joined ghost).fetchSnapshot multicast ghost = .ok snapshot :=
    fetched
  rw [quiescent.fetchSnapshot_haunted join, if_pos rfl] at handed
  split at handed
  · obtain rfl := Except.ok.inj handed
    exact found
  · contradiction

/-- A start that fails over the seed file happens in an empty multicast group and leaves a member
in it, which hands over an empty state.  The next node that starts takes that state, whatever the
seed file then holds; without the failed start it would have begun as the seed file says. -/
theorem Quiescent.failed_start_stays (quiescent : cluster.Quiescent) {cause : SeedFault}
    (unreadable : cause ≠ .overflow)
    (start : cluster.startNode = (.error (.seed cause), after)) :
    cluster.hub.multicastView.members = [] ∧
      ∃ ghost, after.hub.multicastView.members = [ghost] ∧
        after.hub.rpcView = cluster.hub.rpcView ∧
        (∀ asking giving, after.fetchSnapshot asking giving =
          if giving = ghost then
            if cluster.hub.isReachable asking && cluster.hub.isReachable ghost then
              .ok (cluster.joining ghost).replica.snapshot
            else .error (.unreachable ghost)
          else cluster.fetchSnapshot asking giving) ∧
        ∀ seed multicast rpc later,
          ((after.reseeded seed).startNode = (.ok (multicast, rpc), later) →
            later.node? multicast = some ⟨multicast,
              .fresh cluster.settings.firstId cluster.settings.probeLimit, .serving⟩) ∧
          ((cluster.reseeded seed).startNode = (.ok (multicast, rpc), later) →
            later.node? multicast =
              some ⟨multicast, .first cluster.settings seed, .serving⟩) := by
  obtain ⟨ghost, joined, join, empty, rfl⟩ := quiescent.startNode_failed unreadable start
  refine ⟨empty, ghost, ?_, ?_, quiescent.fetchSnapshot_haunted join,
    fun seed multicast rpc later => ⟨?_, ?_⟩⟩
  · change joined.multicastView.members = [ghost]
    rw [Hub.view_of_join join, empty]
    rfl
  · obtain ⟨-, -, rfl⟩ := Hub.join?_eq_some join
    rfl
  · exact quiescent.startNode_haunted empty join seed
  · exact (quiescent.reseeded seed).startNode_alone empty

theorem quiescent_fresh (settings : Settings) (seed : Option (Option (List UInt8)))
    (accounts : Accounts) : (fresh settings seed accounts).Quiescent := by
  constructor
  case nodes => exact List.nodup_nil
  case numbered => exact ⟨by simp [fresh, Hub.empty], by simp [fresh, Hub.empty, View.initial],
    by simp [fresh, Hub.empty]⟩
  all_goals simp [fresh, Apart, Drained, Hub.empty, View.initial]

/-- The first node to start does not find its seed file. -/
theorem failed_start_stays_missing :
    let cluster := fresh .standard (some none) (.table [])
    cluster.startNode.1 = .error (.seed .missingFile) ∧
      ∃ ghost, cluster.startNode.2.hub.multicastView.members = [ghost] ∧
        ∀ seed multicast rpc later,
          (cluster.startNode.2.reseeded seed).startNode = (.ok (multicast, rpc), later) →
            later.node? multicast = some ⟨multicast, .fresh 1000 5000, .serving⟩ := by
  intro cluster
  have fails : cluster.startNode.1 = .error (.seed .missingFile) := by decide +kernel
  obtain ⟨-, ghost, members, -, -, later⟩ :=
    (quiescent_fresh .standard (some none) (.table [])).failed_start_stays (by decide)
      (Prod.ext fails rfl)
  exact ⟨fails, ghost, members, fun seed multicast rpc after => (later seed multicast rpc after).1⟩

/-- It matters that a failed start stays: had it left no trace, the next node would have begun with
the one auction of the seed file that has been put right. -/
theorem failed_start_not_undone :
    ¬∀ (cluster : Cluster) (cause : SeedFault), cluster.Quiescent →
      cluster.startNode.1 = .error (.seed cause) →
        cluster.startNode.2.hub.multicastView.members = cluster.hub.multicastView.members ∧
          cluster.startNode.2.hub.rpcView.members = cluster.hub.rpcView.members ∧
          (∀ asking giving, (cluster.startNode.2.fetchSnapshot asking giving).toOption.isSome =
            (cluster.fetchSnapshot asking giving).toOption.isSome) ∧
          ∀ seed, (cluster.startNode.2.reseeded seed).startNode.2.running.map Node.replica =
            (cluster.reseeded seed).startNode.2.running.map Node.replica := by
  intro undone
  obtain ⟨-, -, -, same⟩ := undone (fresh .standard (some none) (.table [])) .missingFile
    (quiescent_fresh _ _ _) (by decide +kernel)
  have sizes := congrArg (List.map Replica.size) (same (some (some (Text.utf8Bytes "5, Lamp, 3"))))
  have empty : ((((fresh .standard (some none) (.table [])).startNode.2.reseeded
      (some (some (Text.utf8Bytes "5, Lamp, 3")))).startNode.2.running.map Node.replica).map
        Replica.size) = [0] := by
    decide +kernel
  have full : ((((fresh .standard (some none) (.table [])).reseeded
      (some (some (Text.utf8Bytes "5, Lamp, 3")))).startNode.2.running.map Node.replica).map
        Replica.size) = [1] := by
    decide +kernel
  rw [empty, full] at sizes
  contradiction

end Cluster

end AuctionHouse
