import AuctionHouse.Proofs.Membership
import AuctionHouse.Proofs.Refusals
import AuctionHouse.Proofs.Round

/-!
# How a node starts

A node that manages to start has gone through all of it: it has joined the multicast group, got a
state, joined the RPC group and announced itself.  The state is the one of the oldest other member
or, if there is none, the one that every node begins with.  If nothing was under way before, the
others only have to read that there is one more, and what each of them hands over stays the same.
-/

namespace AuctionHouse

/-- The replica of a node that starts while no other one runs: an empty one, or the one that the
seed file gives. -/
def Replica.first (settings : Settings) (seed : Option (Option (List UInt8))) : Replica :=
  let replica := fresh settings.firstId settings.probeLimit
  match seed with
  | some contents => (replica.seedFile contents).2
  | none => replica

theorem Replica.probeLimit_enter (replica : Replica) (id : AuctionId) (auctions : List Auction) :
    (replica.enter id auctions).2.probeLimit = replica.probeLimit := by
  fun_induction enter replica id auctions with
  | case1 => rfl
  | case2 _ _ _ _ _ _ _ induction => exact induction
  | case3 => rfl
  | case4 => rfl

@[simp]
theorem Replica.probeLimit_first (settings : Settings) (seed : Option (Option (List UInt8))) :
    (Replica.first settings seed).probeLimit = settings.probeLimit := by
  cases seed with
  | none => rfl
  | some contents =>
      cases contents with
      | none => rfl
      | some bytes =>
          obtain ⟨replica, isFresh⟩ : ∃ replica,
            replica = fresh settings.firstId settings.probeLimit := ⟨_, rfl⟩
          have limit : (replica.seed bytes).2.probeLimit = replica.probeLimit := by
            cases read : Seed.read bytes with
            | error fault => rw [seed_of_error read]
            | ok auctions => rw [seed_of_read read, probeLimit_enter]
          rw [isFresh] at limit
          exact limit

namespace Cluster

/-- The cluster with one node more, on another hub. -/
def enlarged (cluster : Cluster) (hub : Hub StateSource Answerer) (node : Node) : Cluster :=
  { cluster with hub, nodes := cluster.nodes ++ [node] }

theorem modifyNode_enlarged {cluster : Cluster} {node : Node}
    (fresh : ∀ other ∈ cluster.nodes, other.address ≠ node.address)
    (hub : Hub StateSource Answerer) (change : Node → Node) :
    (cluster.enlarged hub node).modifyNode node.address change =
      cluster.enlarged hub (change node) := by
  have nodes : (cluster.nodes ++ [node]).map (fun other =>
      if other.address = node.address then change other else other) =
      cluster.nodes ++ [change node] := by
    rw [List.map_append, List.map_congr_left fun other listed => if_neg (fresh other listed)]
    simp
  rw [modifyNode, enlarged]
  simp only [nodes]
  rfl

theorem node?_enlarged {cluster : Cluster} {node : Node}
    (fresh : ∀ other ∈ cluster.nodes, other.address ≠ node.address)
    (hub : Hub StateSource Answerer) :
    (cluster.enlarged hub node).node? node.address = some node := by
  have absent :
      cluster.nodes.find? (fun other => decide (other.address = node.address)) = none := by
    simpa using fresh
  simp [node?, enlarged, List.find?_append, absent]

/-- A node that has just joined. -/
def joining (cluster : Cluster) (address : Address) : Node :=
  ⟨address, .fresh cluster.settings.firstId cluster.settings.probeLimit, .joining⟩

/-- A node that has just joined holds no texts. -/
theorem storable_joining (cluster : Cluster) (address : Address) :
    (cluster.joining address).replica.snapshot.Storable := by
  simp [Snapshot.Storable, joining, Replica.fresh, Catalogue.empty, Replica.snapshot]

/-- A joining node that has to wait could not fetch the state of another one, and all is as it was
before. -/
theorem attempt_eq_blocked {cluster waiting : Cluster} {address : Address} {fault : Fault}
    (blocked : cluster.attempt address = .blocked fault waiting) :
    waiting = cluster ∧ ∃ peer, cluster.fetchSnapshot address peer = .error fault := by
  rw [attempt] at blocked
  split at blocked
  · rename_i peer _
    split at blocked
    · contradiction
    · rename_i refused
      obtain ⟨rfl, rfl⟩ := Attempt.blocked.inj blocked
      exact ⟨rfl, peer, refused⟩
  · split at blocked
    · split at blocked
      · contradiction
      · contradiction
    · contradiction

/-- A joining node that gets a state gets that of the oldest other member or, if there is none,
begins anew. -/
theorem attempt_eq_ready {cluster ready : Cluster} {address : Address}
    (fresh : ∀ other ∈ cluster.nodes, other.address ≠ address)
    {hub : Hub StateSource Answerer}
    (isReady : (cluster.enlarged hub (cluster.joining address)).attempt address = .ready ready) :
    ∃ given, ready = cluster.enlarged hub ⟨address, given, .joining⟩ ∧
      (hub.multicastView.oldestOther? address = none →
        given = Replica.first cluster.settings cluster.seed) ∧
      ∀ peer, hub.multicastView.oldestOther? address = some peer → ∃ snapshot,
        (cluster.enlarged hub (cluster.joining address)).fetchSnapshot address peer =
          .ok snapshot ∧ given = (cluster.joining address).replica.restore snapshot := by
  have modify (change : Node → Node) :
      (cluster.enlarged hub (cluster.joining address)).modifyNode address change = _ :=
    modifyNode_enlarged fresh hub change
  have listed : (cluster.enlarged hub (cluster.joining address)).node? address = _ :=
    node?_enlarged fresh hub
  have view : (cluster.enlarged hub (cluster.joining address)).hub = hub := rfl
  have seed : (cluster.enlarged hub (cluster.joining address)).seed = cluster.seed := rfl
  rw [attempt, view, seed] at isReady
  cases oldest : hub.multicastView.oldestOther? address with
  | some peer =>
      simp only [oldest] at isReady
      cases fetched : (cluster.enlarged hub (cluster.joining address)).fetchSnapshot address
          peer with
      | error fault => simp [fetched] at isReady
      | ok snapshot =>
          simp only [fetched, modify] at isReady
          refine ⟨_, (Attempt.ready.inj isReady).symm, by simp, fun other same => ?_⟩
          obtain rfl := Option.some.inj same
          exact ⟨snapshot, fetched, rfl⟩
  | none =>
      simp only [oldest] at isReady
      cases named : cluster.seed with
      | none =>
          simp only [named] at isReady
          exact ⟨_, (Attempt.ready.inj isReady).symm, fun _ => rfl, by simp⟩
      | some contents =>
          simp only [named, listed, setReplica, modify] at isReady
          refine ⟨Replica.first cluster.settings (some contents), ?_, fun _ => rfl, by simp⟩
          split at isReady
          · rename_i seeded
            rw [← Attempt.ready.inj isReady]
            exact congrArg (fun result => cluster.enlarged hub
              ⟨address, result.2, .joining⟩) seeded.symm
          · simp at isReady

theorem beginServing_enlarged {cluster : Cluster} {node : Node}
    (fresh : ∀ other ∈ cluster.nodes, other.address ≠ node.address)
    {hub serving announced : Hub StateSource Answerer} {rpc : Address}
    (joinRpc : hub.joinRpc? node.address (.node node.address) = some (rpc, serving))
    (announce : serving.announce node.address rpc = .ok announced) :
    (cluster.enlarged hub node).beginServing node.address =
      (.ok rpc, cluster.enlarged announced { node with phase := .serving }) := by
  have serves := modifyNode_enlarged fresh announced fun node => { node with phase := .serving }
  rw [beginServing]
  simp only [enlarged, joinRpc, announce] at serves ⊢
  exact congrArg (Prod.mk _) serves

/-- A node that starts joins both groups, gets a state, serves and has everybody hear of it. -/
theorem startNode_eq_ok {cluster after : Cluster} {multicast rpc : Address}
    (numbered : ∀ node ∈ cluster.nodes, node.address.id ≤ cluster.hub.lastId)
    (start : cluster.startNode = (.ok (multicast, rpc), after)) :
    ∃ joined given serving announced, cluster.hub.join? .node = some (multicast, joined) ∧
      joined.joinRpc? multicast (.node multicast) = some (rpc, serving) ∧
      serving.announce multicast rpc = .ok announced ∧
      (joined.multicastView.oldestOther? multicast = none →
        given = Replica.first cluster.settings cluster.seed) ∧
      (∀ peer, joined.multicastView.oldestOther? multicast = some peer → ∃ snapshot,
        (cluster.enlarged joined (cluster.joining multicast)).fetchSnapshot multicast peer =
          .ok snapshot ∧ given = (cluster.joining multicast).replica.restore snapshot) ∧
      after = (cluster.enlarged announced ⟨multicast, given, .serving⟩).settle := by
  rw [startNode, startNodeAmid] at start
  cases joins : cluster.hub.join? .node with
  | none => simp [joinNode?, joins] at start
  | some pair =>
      obtain ⟨address, joined⟩ := pair
      obtain ⟨bound, named, -⟩ := Hub.join?_eq_some joins
      have fresh : ∀ node ∈ cluster.nodes, node.address ≠ address := by
        intro node listed same
        have used := UInt64.lt_of_le_of_lt (numbered node listed) (Hub.lt_next bound)
        rw [same, named] at used
        exact UInt64.lt_irrefl _ used
      have joinNode : cluster.joinNode? =
          some (address, cluster.enlarged joined (cluster.joining address)) := by
        rw [joinNode?, joins]
        rfl
      simp only [joinNode, initialise] at start
      cases attempted : (cluster.enlarged joined (cluster.joining address)).attempt address with
      | blocked fault waiting => simp [attempted] at start
      | failed fault waiting => simp [attempted] at start
      | ready found =>
          obtain ⟨given, rfl, anew, taken⟩ := attempt_eq_ready fresh attempted
          simp only [attempted] at start
          cases joinRpc : joined.joinRpc? address (.node address) with
          | none => simp [beginServing, enlarged, joinRpc, Except.map] at start
          | some pair =>
              obtain ⟨own, serving⟩ := pair
              cases announce : serving.announce address own with
              | error fault => simp [beginServing, enlarged, joinRpc, announce, Except.map] at start
              | ok announced =>
                  have begun : (cluster.enlarged joined ⟨address, given, .joining⟩).beginServing
                      address = (.ok own, cluster.enlarged announced ⟨address, given, .serving⟩) :=
                    beginServing_enlarged fresh joinRpc announce
                  rw [begun] at start
                  obtain ⟨addresses, settled⟩ := Prod.mk.inj start
                  obtain ⟨rfl, rfl⟩ := Prod.mk.inj (Except.ok.inj addresses)
                  exact ⟨joined, given, serving, announced, rfl, joinRpc, announce, anew, taken,
                    settled.symm⟩

/-! ## Starting while nothing is under way -/

/-- Nothing is under way in a cluster, and everybody in it has joined or attached at some time. -/
structure Quiescent (cluster : Cluster) : Prop where
  /-- No two nodes share an address. -/
  nodes : (cluster.nodes.map Node.address).Nodup
  /-- Nobody is both a coordinator and a serving node. -/
  apart : cluster.Apart
  /-- Nothing waits to be worked off. -/
  drained : cluster.Drained
  /-- No number is given out twice. -/
  numbered : cluster.hub.Numbered
  /-- Every node has joined. -/
  joined : ∀ node ∈ cluster.nodes, node.address ∈ cluster.hub.members.map Member.address
  /-- Every coordinator has attached. -/
  attached : ∀ coordinator ∈ cluster.coordinators,
    coordinator.address ∈ cluster.hub.members.map Member.address
  /-- Every member of the multicast group has joined. -/
  grouped : ∀ address ∈ cluster.hub.multicastView.members,
    address ∈ cluster.hub.members.map Member.address

variable {cluster after : Cluster} {multicast rpc : Address} {joined : Hub StateSource Answerer}

theorem Quiescent.id_le_lastId (quiescent : cluster.Quiescent) :
    ∀ node ∈ cluster.nodes, node.address.id ≤ cluster.hub.lastId := by
  intro node listed
  obtain ⟨member, isMember, same⟩ := List.mem_map.mp (quiescent.joined node listed)
  exact same ▸ quiescent.numbered.members member isMember

/-- No node has the address that the next one gets. -/
theorem Quiescent.ne_of_join (quiescent : cluster.Quiescent)
    (join : cluster.hub.join? .node = some (multicast, joined)) :
    ∀ node ∈ cluster.nodes, node.address ≠ multicast := fun node listed =>
  quiescent.numbered.ne_of_join join (quiescent.joined node listed)

/-- A node that joins and is told nothing finds its place when everybody has read what arrived. -/
theorem Quiescent.settle_enlarged (quiescent : cluster.Quiescent)
    (join : cluster.hub.join? .node = some (multicast, joined))
    {hub : Hub StateSource Answerer}
    (quiet : ∀ address, cluster.hub.Uncommanded address → hub.Uncommanded address) {node : Node}
    (named : node.address = multicast) :
    (cluster.enlarged hub node).settle =
      (cluster.enlarged hub node).quieted (cluster.enlarged hub node).listeners := by
  have isNew {address : Address} (used : address ∈ cluster.hub.members.map Member.address) :
      address ≠ node.address := named ▸ quiescent.numbered.ne_of_join join used
  have running : ∀ other ∈ (cluster.enlarged hub node).running,
      other ∈ cluster.running ∨ other = node := by
    intro other isRunning
    obtain ⟨listed, serving⟩ := mem_running_iff.mp isRunning
    rcases List.mem_append.mp listed with before | new
    · exact .inl (mem_running_iff.mpr ⟨before, serving⟩)
    · exact .inr (List.mem_singleton.mp new)
  refine settle_of_quiet ?_ ?_ ?_
  · rw [Cluster.enlarged, List.map_append]
    refine quiescent.nodes.append (by simp) ?_
    simpa using fun other listed => isNew (quiescent.joined other listed)
  · intro coordinator listed other isRunning
    rcases running other isRunning with before | rfl
    · exact quiescent.apart coordinator listed other before
    · exact isNew (quiescent.attached coordinator listed)
  · intro other isRunning
    refine peersOf_eq_nil (quiet other.address fun member listed same => ?_)
    rcases running other isRunning with before | rfl
    · have listens : member.address ∈ cluster.listeners :=
        List.mem_append_right _ (same ▸ List.mem_map_of_mem before)
      rw [quiescent.drained member listed listens]
      rfl
    · exact absurd same (isNew (List.mem_map_of_mem listed))

/-- What can be fetched when a node has joined: the new node's state, and everybody else's. -/
theorem Quiescent.fetchSnapshot_enlarged (quiescent : cluster.Quiescent)
    (join : cluster.hub.join? .node = some (multicast, joined)) {node : Node}
    (named : node.address = multicast) (storable : node.replica.snapshot.Storable)
    (asking giving : Address) :
    (cluster.enlarged joined node).fetchSnapshot asking giving =
      if giving = multicast then
        if cluster.hub.isReachable asking && cluster.hub.isReachable multicast then
          .ok node.replica.snapshot
        else .error (.unreachable multicast)
      else cluster.fetchSnapshot asking giving := by
  have fresh : ∀ other ∈ cluster.nodes, other.address ≠ node.address :=
    named ▸ quiescent.ne_of_join join
  have handed := quiescent.numbered.sourceOf_join join asking giving
  split
  · rename_i own
    rw [if_pos own] at handed
    have source : (cluster.enlarged joined node).hub.sourceOf asking giving = _ := handed
    have listed : (cluster.enlarged joined node).node? giving = some node := by
      rw [own, ← named]
      exact node?_enlarged fresh joined
    rw [fetchSnapshot, source]
    by_cases connected :
        (cluster.hub.isReachable asking && cluster.hub.isReachable multicast) = true
    · simp only [if_pos connected, listed,
        Wire.transmit_of_survives (Wire.survives_snapshot storable)]
      rfl
    · simp only [if_neg connected]
  · rename_i other
    rw [if_neg other] at handed
    refine fetchSnapshot_congr handed (congrArg _ ?_)
    have apart : node.address ≠ giving := by
      rw [named]
      exact Ne.symm other
    simp [node?, Cluster.enlarged, List.find?_append, apart]

/-- What a node holds that has started. -/
theorem Quiescent.startNode_ok (quiescent : cluster.Quiescent)
    (start : cluster.startNode = (.ok (multicast, rpc), after)) :
    ∃ joined given, cluster.hub.join? .node = some (multicast, joined) ∧
      (joined.multicastView.oldestOther? multicast = none →
        given = Replica.first cluster.settings cluster.seed) ∧
      (∀ peer, joined.multicastView.oldestOther? multicast = some peer → ∃ snapshot,
        (cluster.enlarged joined (cluster.joining multicast)).fetchSnapshot multicast peer =
          .ok snapshot ∧ given = (cluster.joining multicast).replica.restore snapshot) ∧
      after.node? multicast = some ⟨multicast, given, .serving⟩ := by
  obtain ⟨joined, given, serving, announced, join, joinRpc, announce, anew, taken, rfl⟩ :=
    startNode_eq_ok quiescent.id_le_lastId start
  have fresh := quiescent.ne_of_join join
  refine ⟨joined, given, join, anew, taken, ?_⟩
  rw [quiescent.settle_enlarged join
    (fun address quiet => quiet.of_announce join joinRpc announce) rfl]
  have listed : (cluster.enlarged announced ⟨multicast, given, .serving⟩).node? multicast = _ :=
    node?_enlarged fresh announced
  exact listed

end Cluster

end AuctionHouse
