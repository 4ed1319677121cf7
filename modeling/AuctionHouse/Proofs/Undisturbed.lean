import AuctionHouse.Proofs.FingerprintRound
import AuctionHouse.Proofs.Membership

/-!
# Clusters in which nothing goes wrong

As long as nobody is cut off and nodes come and go of their own accord, everybody keeps their place:
the nodes that serve are just the members of both groups, and the one coordinator has been told the
two addresses of each, as soon as it has read what has arrived.
-/

namespace AuctionHouse

namespace Cluster

/-- One coordinator and nodes that come and go of their own accord, each in its place. -/
structure Placed (cluster : Cluster) (me : Address) : Prop extends cluster.Arranged where
  /-- Nobody is cut off. -/
  whole : cluster.hub.isolated = []
  /-- There is one coordinator. -/
  sole : cluster.coordinators.map Coordinator.address = [me]
  /-- It hears of everything that is published. -/
  listening : ∃ member ∈ cluster.hub.members, member.address = me ∧ member.isSubscribed = true
  /-- The members of the multicast group are the serving nodes. -/
  grouped : cluster.hub.multicastView.members = cluster.running.map Node.address
  /-- Every node has joined at some time. -/
  joined : ∀ node ∈ cluster.nodes, node.address ∈ cluster.hub.members.map Member.address
  /-- No number is given out twice. -/
  numbered : cluster.hub.Numbered

/-- One coordinator fronts nodes that come and go of their own accord. -/
structure Undisturbed (cluster : Cluster) (me : Address) : Prop extends cluster.Placed me where
  /-- What it has noted and what it has yet to read tells it the address of every node. -/
  told : ∀ rpc ∈ cluster.hub.rpcView.members,
    ((cluster.hub.queueOf me).foldl bookAfter (cluster.bookOf me)).find? rpc =
      cluster.hub.nodeBehind? rpc

/-- What every process was told at its start. -/
def configuration (cluster : Cluster) : Settings × Option (Option (List UInt8)) × Accounts :=
  (cluster.settings, cluster.seed, cluster.accounts)

variable {cluster : Cluster} {me : Address}

theorem Placed.connected (placed : cluster.Placed me) : cluster.Connected me := by
  have reachable (address : Address) : cluster.hub.isReachable address = true := by
    simp [Hub.isReachable, placed.whole]
  exact ⟨reachable me, fun rpc _ => reachable rpc, fun node _ => reachable node.address⟩

theorem Placed.me_listens (placed : cluster.Placed me) : me ∈ cluster.listeners := by
  rw [listeners, placed.sole]
  simp

/-- The coordinator is none of the nodes. -/
theorem Placed.ne_of_running (placed : cluster.Placed me) {node : Node}
    (isRunning : node ∈ cluster.running) : me ≠ node.address := by
  have isCoordinator : me ∈ cluster.coordinators.map Coordinator.address := by
    simp [placed.sole]
  obtain ⟨coordinator, listed, rfl⟩ := List.mem_map.mp isCoordinator
  exact placed.apart coordinator listed node isRunning

theorem Undisturbed.orderly (undisturbed : cluster.Undisturbed me) (drained : cluster.Drained) :
    cluster.Orderly :=
  ⟨undisturbed.toArranged, drained⟩

theorem Undisturbed.informed (undisturbed : cluster.Undisturbed me) (drained : cluster.Drained) :
    cluster.Informed me := by
  intro rpc listed
  have read := undisturbed.told rpc listed
  rw [drained.queueOf undisturbed.me_listens] at read
  exact read

/-! ## Reading and working -/

theorem Placed.revise (placed : cluster.Placed me) {replica : Node → Replica}
    (limit : ∀ node ∈ cluster.nodes, (replica node).probeLimit = node.replica.probeLimit)
    (more : List Notice) : (cluster.revise replica more).Placed me where
  toArranged := placed.toArranged.revise limit more
  whole := placed.whole
  sole := placed.sole
  listening := placed.listening
  grouped := by
    rw [runningAddresses_revise]
    exact placed.grouped
  joined := by
    intro node listed
    obtain ⟨old, isNode, rfl⟩ := List.mem_map.mp listed
    exact placed.joined old isNode
  numbered := placed.numbered

theorem Undisturbed.revise (undisturbed : cluster.Undisturbed me) {replica : Node → Replica}
    (limit : ∀ node ∈ cluster.nodes, (replica node).probeLimit = node.replica.probeLimit)
    (more : List Notice) : (cluster.revise replica more).Undisturbed me where
  toPlaced := undisturbed.toPlaced.revise limit more
  told := undisturbed.told

/-- Nobody's place depends on what waits in the queues. -/
theorem Arranged.requeue (arranged : cluster.Arranged)
    (queue : Member StateSource → List Event) :
    (cluster.withHub (cluster.hub.withQueues queue)).Arranged where
  nodes := arranged.nodes
  members := by
    rw [hub_withHub, Hub.addresses_withQueues]
    exact arranged.members
  apart := arranged.apart
  view := arranged.view
  answered := arranged.answered
  singly := arranged.singly
  enrolled := by
    intro node isRunning
    obtain ⟨member, listed, facts⟩ := arranged.enrolled node isRunning
    exact ⟨_, List.mem_map_of_mem listed, facts⟩
  configured := arranged.configured

theorem Undisturbed.bookOf_quieted (undisturbed : cluster.Undisturbed me)
    (addresses : List Address) :
    (cluster.quieted addresses).bookOf me =
      (cluster.hub.queueOf me).foldl bookAfter (cluster.bookOf me) := by
  have found : (cluster.quieted addresses).coordinator? me =
      (cluster.coordinator? me).map cluster.informed := by
    simp only [coordinator?, quieted, List.find?_map]
    rfl
  rw [bookOf, bookOf, found]
  cases present : cluster.coordinator? me with
  | none =>
      have listed : me ∈ cluster.coordinators.map Coordinator.address := by
        simp [undisturbed.sole]
      obtain ⟨coordinator, isCoordinator, named⟩ := List.mem_map.mp listed
      have absent := List.find?_eq_none.mp present coordinator isCoordinator
      simp [named] at absent
  | some coordinator =>
      have named := List.find?_some present
      simp only [decide_eq_true_eq] at named
      simp [Cluster.informed, named]

/-- Reading what has arrived changes nobody's place. -/
theorem Undisturbed.quieted (undisturbed : cluster.Undisturbed me) {addresses : List Address}
    (reads : me ∈ addresses) : (cluster.quieted addresses).Undisturbed me := by
  have requeued := undisturbed.toArranged.requeue fun member =>
    if member.address ∈ addresses then [] else member.queue
  have coordinators : (cluster.quieted addresses).coordinators.map Coordinator.address =
      cluster.coordinators.map Coordinator.address := by
    simp [Cluster.quieted, Cluster.informed, Function.comp_def]
  have apart : (cluster.quieted addresses).Apart := by
    intro coordinator listed node isRunning
    obtain ⟨old, isOld, rfl⟩ := List.mem_map.mp listed
    exact undisturbed.apart old isOld node isRunning
  refine ⟨⟨⟨requeued.nodes, requeued.members, apart, requeued.view, requeued.answered,
    requeued.singly, requeued.enrolled, requeued.configured⟩, undisturbed.whole,
    coordinators.trans undisturbed.sole, ?_, undisturbed.grouped, ?_, ?_⟩, fun rpc listed => ?_⟩
  · obtain ⟨member, listed, facts⟩ := undisturbed.listening
    exact ⟨_, List.mem_map_of_mem listed, facts⟩
  · intro node listed
    rw [Cluster.quieted, Hub.addresses_withQueues]
    exact undisturbed.joined node listed
  · exact undisturbed.numbered.withQueues _
  · have empty : (cluster.quieted addresses).hub.queueOf me = [] := by
      refine (Hub.queueOf_emptied cluster.hub (· ∈ addresses) me).trans ?_
      rw [if_pos reads]
    rw [empty, undisturbed.bookOf_quieted]
    exact undisturbed.told rpc listed

/-! ## The beginning -/

/-- A coordinator with nobody to front. -/
def fronted (settings : Settings) (seed : Option (Option (List UInt8))) (accounts : Accounts) :
    Cluster :=
  { fresh settings seed accounts with
    hub := {
      (Hub.empty : Hub StateSource Answerer) with
      lastId := 1
      members := [
        { address := ⟨.multicast, 1⟩, isSubscribed := true, source := none, rpc := none
          queue := [] }] }
    coordinators := [{ address := ⟨.multicast, 1⟩, book := .empty, sessions := .empty }] }

theorem startCoordinator_fresh (settings : Settings) (seed : Option (Option (List UInt8)))
    (accounts : Accounts) :
    (fresh settings seed accounts).startCoordinator =
      (.ok ⟨.multicast, 1⟩, fronted settings seed accounts) := rfl

theorem undisturbed_fronted (settings : Settings) (seed : Option (Option (List UInt8)))
    (accounts : Accounts) :
    (fronted settings seed accounts).Undisturbed ⟨.multicast, 1⟩ where
  nodes := List.nodup_nil
  members := by simp [fronted]
  apart := by simp [Apart, fronted, running, fresh]
  view := List.nodup_nil
  answered := by simp [fronted, Hub.empty, View.initial]
  singly := by simp [fronted, Hub.empty, View.initial]
  enrolled := by simp [fronted, running, fresh]
  configured := by simp [fronted, fresh]
  whole := rfl
  sole := rfl
  listening := ⟨_, List.mem_singleton_self _, rfl, rfl⟩
  told := by simp [fronted, Hub.empty, View.initial]
  grouped := rfl
  joined := by simp [fronted, fresh]
  numbered := ⟨by simp [fronted], by simp [fronted, Hub.empty, View.initial],
    by simp [fronted, Hub.empty]⟩

end Cluster

end AuctionHouse
