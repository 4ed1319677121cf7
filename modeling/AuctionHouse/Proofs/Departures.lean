import AuctionHouse.Proofs.Undisturbed

/-!
# A node less

When a node stops it leaves both groups, and the coordinator forgets its addresses.  All others keep
their places.
-/

namespace AuctionHouse.Cluster

variable {cluster : Cluster} {me : Address}

theorem running_stopped (cluster : Cluster) (address : Address) :
    (cluster.modifyNode address fun node => { node with phase := .stopped }).running =
      cluster.running.filter fun node => node.address ≠ address := by
  rw [running, modifyNode, List.filter_map, running, List.filter_filter]
  have kept : cluster.nodes.filter ((fun node : Node => decide (node.phase = .serving)) ∘
        fun node => if node.address = address then { node with phase := .stopped } else node) =
      cluster.nodes.filter fun node =>
        decide (node.address ≠ address) && decide (node.phase = .serving) := by
    refine List.filter_congr fun node _ => ?_
    by_cases same : node.address = address
    · simp [same]
    · simp [same]
  rw [kept]
  refine (List.map_congr_left fun node listed => ?_).trans (List.map_id _)
  have other := (List.mem_filter.mp listed).2
  simp only [ne_eq, Bool.and_eq_true, decide_eq_true_eq] at other
  rw [if_neg other.1]
  rfl

/-- Everybody else keeps their place when a node leaves. -/
theorem Arranged.dismissed (arranged : cluster.Arranged) {node : Node} {rpc : Address}
    (listed : rpc ∈ cluster.hub.rpcView.members)
    (behind : cluster.hub.nodeBehind? rpc = some node.address) :
    ((cluster.withHub (cluster.hub.dismissed node.address rpc)).modifyNode node.address
      fun node => { node with phase := .stopped }).Arranged := by
  have runs := running_stopped (cluster.withHub (cluster.hub.dismissed node.address rpc))
    node.address
  have others {other : Address} (member : other ∈ (cluster.hub.rpcView.left rpc).members) :
      other ∈ cluster.hub.rpcView.members ∧ other ≠ rpc ∧
        (cluster.hub.dismissed node.address rpc).nodeBehind? other =
          cluster.hub.nodeBehind? other := by
    obtain ⟨isMember, differ⟩ := List.mem_filter.mp member
    simp only [ne_eq, decide_eq_true_eq] at differ
    exact ⟨isMember, differ, Hub.nodeBehind?_dismissed _ differ⟩
  constructor
  case nodes =>
    rw [addresses_withPhase]
    exact arranged.nodes
  case members =>
    change ((cluster.hub.dismissed node.address rpc).members.map Member.address).Nodup
    rw [Hub.addresses_dismissed]
    exact arranged.members
  case apart =>
    intro coordinator isCoordinator other isRunning
    rw [runs] at isRunning
    exact arranged.apart coordinator isCoordinator other (List.mem_of_mem_filter isRunning)
  case view => exact arranged.view.filter _
  case answered =>
    intro other member
    obtain ⟨before, differ, still⟩ := others member
    obtain ⟨answering, isRunning, found⟩ := arranged.answered other before
    refine ⟨answering, ?_, still.trans found⟩
    rw [runs]
    refine List.mem_filter.mpr ⟨isRunning, ?_⟩
    simp only [ne_eq, decide_eq_true_eq]
    intro same
    exact differ (arranged.singly other before rpc listed (by rw [found, behind, same]))
  case singly =>
    intro left isLeft right isRight same
    obtain ⟨leftBefore, -, leftStill⟩ := others isLeft
    obtain ⟨rightBefore, -, rightStill⟩ := others isRight
    exact arranged.singly left leftBefore right rightBefore
      (leftStill.symm.trans (same.trans rightStill))
  case enrolled =>
    intro other isRunning
    rw [runs] at isRunning
    obtain ⟨isRunning, differ⟩ := List.mem_filter.mp isRunning
    simp only [ne_eq, decide_eq_true_eq] at differ
    obtain ⟨member, isMember, same, subscribed, source, under, isUnder, answers, found⟩ :=
      arranged.enrolled other isRunning
    have apart : under ≠ rpc := by
      rintro rfl
      exact differ (Option.some.inj (found.symm.trans behind))
    exact ⟨member, Hub.mem_dismissed isMember (same ▸ differ), same, subscribed, source, under,
      List.mem_filter.mpr ⟨isUnder, decide_eq_true apart⟩, answers,
      (Hub.nodeBehind?_dismissed _ apart).trans found⟩
  case configured =>
    intro other isNode
    obtain ⟨old, wasNode, rfl⟩ := List.mem_map.mp isNode
    have limit := arranged.configured old wasNode
    split
    · exact limit
    · exact limit

/-- A node that leaves leaves everybody else in place, whatever waits in the queues. -/
theorem Placed.dismissed (placed : cluster.Placed me) {node : Node}
    (isRunning : node ∈ cluster.running) {rpc : Address}
    (listed : rpc ∈ cluster.hub.rpcView.members)
    (behind : cluster.hub.nodeBehind? rpc = some node.address)
    (queue : Member StateSource → List Event) :
    ((cluster.withHub ((cluster.hub.dismissed node.address rpc).withQueues queue)).modifyNode
      node.address fun node => { node with phase := .stopped }).Placed me := by
  have arranged := placed.toArranged.dismissed listed behind
  have runs := running_stopped
    (cluster.withHub ((cluster.hub.dismissed node.address rpc).withQueues queue)) node.address
  obtain ⟨coordinating, isMember, isMe, subscribed⟩ := placed.listening
  have listening : coordinating ∈ (cluster.hub.dismissed node.address rpc).members :=
    Hub.mem_dismissed isMember (isMe ▸ placed.ne_of_running isRunning)
  constructor
  case toArranged => exact arranged.requeue _
  case whole => exact placed.whole
  case sole => exact placed.sole
  case listening => exact ⟨_, List.mem_map_of_mem listening, isMe, subscribed⟩
  case grouped =>
    rw [runs]
    change cluster.hub.multicastView.members.filter _ = (cluster.running.filter _).map Node.address
    rw [placed.grouped, List.filter_map]
    rfl
  case joined =>
    intro other isNode
    have named := List.mem_map_of_mem (f := Node.address) isNode
    rw [addresses_withPhase] at named
    obtain ⟨old, wasNode, same⟩ := List.mem_map.mp named
    change other.address ∈ (Hub.withQueues _ _).members.map Member.address
    rw [Hub.addresses_withQueues, Hub.addresses_dismissed, ← same]
    exact placed.joined old wasNode
  case numbered => exact (placed.numbered.dismissed _ _).withQueues _

/-- Who leaves takes back both addresses, and everybody else is told. -/
theorem Placed.exists_leave_eq (placed : cluster.Placed me) {node : Node}
    (isRunning : node ∈ cluster.running) :
    ∃ rpc ∈ cluster.hub.rpcView.members, cluster.hub.nodeBehind? rpc = some node.address ∧
      cluster.hub.leave node.address = (cluster.hub.dismissed node.address rpc).withQueues
        (Hub.heard [.multicastView (cluster.hub.multicastView.left node.address),
          .rpcView (cluster.hub.rpcView.left rpc)]) := by
  obtain ⟨member, isMember, named, subscribed, -, rpc, listed, answers, behind⟩ :=
    placed.enrolled node isRunning
  have grouped : member.address ∈ cluster.hub.multicastView.members := by
    rw [placed.grouped, named]
    exact List.mem_map_of_mem isRunning
  have leaves := Hub.leave_eq placed.members isMember subscribed answers grouped
  rw [named] at leaves
  exact ⟨rpc, listed, behind, leaves⟩

end AuctionHouse.Cluster
