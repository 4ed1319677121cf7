import AuctionHouse.Cluster.Coordination
import AuctionHouse.Proofs.Queues

/-!
# Clusters with other replicas

Requests, commands and repairs change two things in a cluster for good: what the replicas hold, and
what has been noted.  `Cluster.revise` is such a change.  Revisions compose, and they leave alone
who is where: the hub, the phases of the nodes and what the coordinators know.
-/

namespace AuctionHouse.Cluster

/-- The cluster with other replicas and some more notices. -/
def revise (cluster : Cluster) (replica : Node → Replica) (more : List Notice) : Cluster :=
  { cluster with
    nodes := cluster.nodes.map fun node => { node with replica := replica node }
    notices := cluster.notices ++ more }

/-- The cluster with another hub. -/
def withHub (cluster : Cluster) (hub : Hub StateSource Answerer) : Cluster := { cluster with hub }

section Projections

variable (cluster : Cluster) (replica : Node → Replica) (more : List Notice)

@[simp]
theorem hub_revise : (cluster.revise replica more).hub = cluster.hub := rfl

@[simp]
theorem nodes_revise :
    (cluster.revise replica more).nodes =
      cluster.nodes.map fun node => { node with replica := replica node } := rfl

@[simp]
theorem hub_withHub (hub : Hub StateSource Answerer) : (cluster.withHub hub).hub = hub := rfl

@[simp]
theorem nodes_withHub (hub : Hub StateSource Answerer) :
    (cluster.withHub hub).nodes = cluster.nodes := rfl

@[simp]
theorem withHub_withHub (hub other : Hub StateSource Answerer) :
    (cluster.withHub hub).withHub other = cluster.withHub other := rfl

theorem revise_withHub (hub : Hub StateSource Answerer) :
    (cluster.withHub hub).revise replica more = (cluster.revise replica more).withHub hub := rfl

theorem node?_revise (address : Address) :
    (cluster.revise replica more).node? address =
      (cluster.node? address).map fun node => { node with replica := replica node } := by
  simp only [node?, revise, List.find?_map]
  rfl

theorem running_revise :
    (cluster.revise replica more).running =
      cluster.running.map fun node => { node with replica := replica node } := by
  simp only [running, revise, List.filter_map]
  rfl

@[simp]
theorem addresses_revise :
    (cluster.revise replica more).nodes.map Node.address = cluster.nodes.map Node.address := by
  simp [Function.comp_def]

@[simp]
theorem runningAddresses_revise :
    (cluster.revise replica more).running.map Node.address =
      cluster.running.map Node.address := by
  simp [running_revise, Function.comp_def]

theorem revise_revise (later : Node → Replica) (extra : List Notice) :
    (cluster.revise replica more).revise later extra =
      cluster.revise (fun node => later { node with replica := replica node }) (more ++ extra) := by
  simp [revise, Function.comp_def, List.append_assoc]

end Projections

theorem revise_congr {cluster : Cluster} {replica other : Node → Replica} (more : List Notice)
    (same : ∀ node ∈ cluster.nodes, replica node = other node) :
    cluster.revise replica more = cluster.revise other more := by
  have nodes : (cluster.nodes.map fun node => { node with replica := replica node }) =
      cluster.nodes.map fun node => { node with replica := other node } :=
    List.map_congr_left fun node listed => by rw [same node listed]
  rw [revise, nodes]
  rfl

theorem revise_self {cluster : Cluster} {replica : Node → Replica}
    (same : ∀ node ∈ cluster.nodes, replica node = node.replica) :
    cluster.revise replica [] = cluster := by
  have unchanged : cluster.revise replica [] = cluster.revise Node.replica [] :=
    revise_congr [] same
  rw [unchanged]
  simp [revise]

theorem modifyNode_eq (cluster : Cluster) (address : Address) (replica : Node → Replica) :
    (cluster.modifyNode address fun node => { node with replica := replica node }) =
      cluster.revise (fun node => if node.address = address then replica node else node.replica)
        [] := by
  have nodes : (cluster.nodes.map fun node =>
      if node.address = address then { node with replica := replica node } else node) =
      cluster.nodes.map fun node =>
        { node with
          replica := if node.address = address then replica node else node.replica } :=
    List.map_congr_left fun node _ => by split <;> rfl
  rw [modifyNode, nodes, revise, List.append_nil]

theorem setReplica_eq (cluster : Cluster) (address : Address) (replica : Replica) :
    cluster.setReplica address replica =
      cluster.revise (fun node => if node.address = address then replica else node.replica) [] :=
  cluster.modifyNode_eq address fun _ => replica

theorem note_eq (cluster : Cluster) (notice : Notice) :
    cluster.note notice = cluster.revise Node.replica [notice] := by
  simp [note, revise]

theorem mem_nodes_withPhase {cluster : Cluster} {address : Address} {phase : NodePhase}
    {node : Node}
    (listed : node ∈ (cluster.modifyNode address fun node => { node with phase }).nodes) :
    (∃ old ∈ cluster.nodes, old.address = address ∧ node = { old with phase }) ∨
      node ∈ cluster.nodes ∧ node.address ≠ address := by
  obtain ⟨old, isNode, rfl⟩ := List.mem_map.mp listed
  split
  · rename_i same
    exact .inl ⟨old, isNode, same, rfl⟩
  · rename_i other
    exact .inr ⟨isNode, other⟩

/-- A change of phase changes nobody's address. -/
theorem addresses_withPhase (cluster : Cluster) (address : Address) (phase : NodePhase) :
    (cluster.modifyNode address fun node => { node with phase }).nodes.map Node.address =
      cluster.nodes.map Node.address := by
  simp only [modifyNode, List.map_map]
  refine List.map_congr_left fun node _ => ?_
  simp only [Function.comp_apply]
  split
  · rfl
  · rfl

/-! ## One node for each address -/

theorem mem_nodes_of_node? {cluster : Cluster} {address : Address} {node : Node}
    (found : cluster.node? address = some node) :
    node ∈ cluster.nodes ∧ node.address = address :=
  ⟨List.mem_of_find?_eq_some found, by simpa using List.find?_some found⟩

theorem node?_eq_some {cluster : Cluster} (distinct : (cluster.nodes.map Node.address).Nodup)
    {node : Node} (listed : node ∈ cluster.nodes) : cluster.node? node.address = some node :=
  find?_of_nodup distinct listed

theorem mem_running_iff {cluster : Cluster} {node : Node} :
    node ∈ cluster.running ↔ node ∈ cluster.nodes ∧ node.phase = .serving := by
  simp [running]

end AuctionHouse.Cluster
