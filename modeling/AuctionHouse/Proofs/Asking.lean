import AuctionHouse.Cluster.Membership
import AuctionHouse.Proofs.Serving
import AuctionHouse.Proofs.Settling

/-!
# Asking the nodes

In an orderly cluster each member of the RPC group is a node of its own, and nothing waits in a
queue.  A request of a coordinator then reaches exactly the nodes whose RPC addresses are connected
with it; each of them serves it once, and their replies are counted in the order of the view.
-/

namespace AuctionHouse

/-- The node that answers requests under an RPC address. -/
def Hub.nodeBehind? (hub : Hub StateSource Answerer) (rpc : Address) : Option Address :=
  match hub.handlers.find? fun entry => decide (entry.1 = rpc) with
  | some (_, .node address) => some address
  | _ => none

/-- The reply of a replica as it reaches who asked for it. -/
def Replica.reply? (replica : Replica) (request : Request) : Option Reply :=
  (replica.serve request).1.toOption.bind fun reply => (Wire.transmit reply).toOption

/-- A reply that is given arrives as it was given. -/
theorem Replica.reply?_of_served {replica : Replica} {request : Request} {reply : Reply}
    (served : (replica.serve request).1 = .ok reply) (storable : reply.Storable) :
    replica.reply? request = some reply := by
  rw [reply?, served]
  exact congrArg Except.toOption (Wire.transmit_of_survives (Wire.survives_reply storable))

namespace Cluster

/-- The members of the RPC group are nodes, whatever they have come to and hold. -/
structure Manned (cluster : Cluster) : Prop where
  /-- No two nodes share an address. -/
  nodes : (cluster.nodes.map Node.address).Nodup
  /-- Nobody is twice in the RPC group. -/
  view : cluster.hub.rpcView.members.Nodup
  /-- Every member of the RPC group is a node. -/
  answered : ∀ rpc ∈ cluster.hub.rpcView.members, ∃ node ∈ cluster.nodes,
    cluster.hub.nodeBehind? rpc = some node.address
  /-- No two members of the RPC group are the same node. -/
  singly : ∀ left ∈ cluster.hub.rpcView.members, ∀ right ∈ cluster.hub.rpcView.members,
    cluster.hub.nodeBehind? left = cluster.hub.nodeBehind? right → left = right

/-- All requests are answered by nodes of one configuration, each under one RPC address. -/
structure Arranged (cluster : Cluster) : Prop where
  /-- No two nodes share an address. -/
  nodes : (cluster.nodes.map Node.address).Nodup
  /-- No two processes share an address. -/
  members : (cluster.hub.members.map Member.address).Nodup
  /-- Nobody is both a coordinator and a serving node. -/
  apart : cluster.Apart
  /-- Nobody is twice in the RPC group. -/
  view : cluster.hub.rpcView.members.Nodup
  /-- Every member of the RPC group is a serving node. -/
  answered : ∀ rpc ∈ cluster.hub.rpcView.members, ∃ node ∈ cluster.running,
    cluster.hub.nodeBehind? rpc = some node.address
  /-- No two members of the RPC group are the same node. -/
  singly : ∀ left ∈ cluster.hub.rpcView.members, ∀ right ∈ cluster.hub.rpcView.members,
    cluster.hub.nodeBehind? left = cluster.hub.nodeBehind? right → left = right
  /-- Every serving node is a member of the RPC group and hands over its state. -/
  enrolled : ∀ node ∈ cluster.running, ∃ member ∈ cluster.hub.members,
    member.address = node.address ∧ member.isSubscribed = true ∧ member.source = some .node ∧
      ∃ rpc ∈ cluster.hub.rpcView.members, member.rpc = some rpc ∧
        cluster.hub.nodeBehind? rpc = some node.address
  /-- All nodes were told the same limit. -/
  configured : ∀ node ∈ cluster.nodes, node.replica.probeLimit = cluster.settings.probeLimit

theorem Arranged.manned {cluster : Cluster} (arranged : cluster.Arranged) : cluster.Manned where
  nodes := arranged.nodes
  view := arranged.view
  answered := by
    intro rpc member
    obtain ⟨node, isRunning, behind⟩ := arranged.answered rpc member
    exact ⟨node, (mem_running_iff.mp isRunning).1, behind⟩
  singly := arranged.singly

/-- A cluster of nodes in which nothing is under way. -/
structure Orderly (cluster : Cluster) : Prop extends cluster.Arranged where
  /-- Nothing waits to be worked off. -/
  drained : cluster.Drained

/-- Whatever pair of members a coordinator has noted, they are the two addresses of one node. -/
def Truthful (cluster : Cluster) (me : Address) : Prop :=
  ∀ rpc ∈ cluster.hub.rpcView.members, ∀ multicast,
    (cluster.bookOf me).find? rpc = some multicast →
      cluster.hub.nodeBehind? rpc = some multicast

/-- The nodes that a request reaches, with their RPC addresses, in the order of the view. -/
def reached (cluster : Cluster) (me : Address) : List (Address × Node) :=
  if cluster.hub.isReachable me then
    (cluster.hub.rpcView.members.filter cluster.hub.isReachable).filterMap fun rpc =>
      ((cluster.hub.nodeBehind? rpc).bind cluster.node?).map fun node => (rpc, node)
  else
    []

/-- The replies to a request, in the order of the view. -/
def votes (cluster : Cluster) (me : Address) (request : Request) : List (Address × Reply) :=
  (cluster.reached me).filterMap fun entry =>
    (entry.2.replica.reply? request).map fun reply => (entry.1, reply)

/-- The multicast addresses of the nodes that a request reaches. -/
def reachedAddresses (cluster : Cluster) (me : Address) : List Address :=
  (cluster.reached me).map fun entry => entry.2.address

/-- A node's replica after a request has gone around. -/
def afterRequest (cluster : Cluster) (me : Address) (request : Request) (node : Node) : Replica :=
  if node.address ∈ cluster.reachedAddresses me then (node.replica.serve request).2
  else node.replica

/-! ## Who is reached -/

theorem mem_reached_iff {cluster : Cluster} {me : Address} {entry : Address × Node} :
    entry ∈ cluster.reached me ↔
      cluster.hub.isReachable me = true ∧ entry.1 ∈ cluster.hub.rpcView.members ∧
        cluster.hub.isReachable entry.1 = true ∧
        (cluster.hub.nodeBehind? entry.1).bind cluster.node? = some entry.2 := by
  rw [reached]
  obtain ⟨rpc, node⟩ := entry
  split
  · rename_i connected
    simp only [List.mem_filterMap, List.mem_filter, Option.map_eq_some_iff, Prod.mk.injEq,
      connected, true_and]
    constructor
    · rintro ⟨other, ⟨member, reachable⟩, found, behind, rfl, rfl⟩
      exact ⟨member, reachable, behind⟩
    · rintro ⟨member, reachable, behind⟩
      exact ⟨rpc, ⟨member, reachable⟩, node, behind, rfl, rfl⟩
  · rename_i cut
    simp [cut]

/-- Whoever is reached is a node, behind the RPC address it is reached under. -/
theorem Manned.of_reached {cluster : Cluster} (manned : cluster.Manned) {me : Address}
    {entry : Address × Node} (member : entry ∈ cluster.reached me) :
    entry.2 ∈ cluster.nodes ∧ entry.1 ∈ cluster.hub.rpcView.members ∧
      cluster.hub.nodeBehind? entry.1 = some entry.2.address := by
  obtain ⟨-, listed, -, found⟩ := mem_reached_iff.mp member
  obtain ⟨node, isNode, behind⟩ := manned.answered entry.1 listed
  rw [behind, Option.bind_some, node?_eq_some manned.nodes isNode] at found
  obtain rfl := Option.some.inj found
  exact ⟨isNode, listed, behind⟩

/-- In an arranged cluster it is a serving node. -/
theorem Arranged.of_reached {cluster : Cluster} (arranged : cluster.Arranged) {me : Address}
    {entry : Address × Node} (member : entry ∈ cluster.reached me) :
    entry.2 ∈ cluster.running ∧ entry.1 ∈ cluster.hub.rpcView.members ∧
      cluster.hub.nodeBehind? entry.1 = some entry.2.address := by
  obtain ⟨isNode, listed, behind⟩ := arranged.manned.of_reached member
  obtain ⟨node, isRunning, named⟩ := arranged.answered entry.1 listed
  have same : node.address = entry.2.address := Option.some.inj (named.symm.trans behind)
  obtain rfl := List.inj_on_of_nodup_map arranged.nodes (mem_running_iff.mp isRunning).1 isNode same
  exact ⟨isRunning, listed, behind⟩

/-- Nobody but a serving node is reached. -/
theorem Orderly.unreached_of_idle {cluster : Cluster} (orderly : cluster.Orderly) {me : Address}
    {node : Node} (listed : node ∈ cluster.nodes) (idle : node.phase ≠ .serving) :
    node.address ∉ cluster.reachedAddresses me := by
  intro isReached
  obtain ⟨entry, isEntry, named⟩ := List.mem_map.mp isReached
  obtain ⟨isNode, phase⟩ := mem_running_iff.mp (orderly.of_reached isEntry).1
  obtain rfl := List.inj_on_of_nodup_map orderly.nodes isNode listed named
  exact idle phase

/-- The addresses under which nodes are reached, in the order of the view. -/
theorem Manned.reached_fst {cluster : Cluster} (manned : cluster.Manned) (me : Address) :
    (cluster.reached me).map Prod.fst =
      if cluster.hub.isReachable me then
        cluster.hub.rpcView.members.filter cluster.hub.isReachable
      else [] := by
  rw [reached]
  split
  · rw [List.map_filterMap]
    refine (List.filterMap_congr fun rpc member => ?_).trans List.filterMap_some
    obtain ⟨node, isNode, behind⟩ := manned.answered rpc (List.mem_of_mem_filter member)
    rw [behind, Option.bind_some, node?_eq_some manned.nodes isNode]
    rfl
  · rfl

theorem Manned.reached_sublist {cluster : Cluster} (manned : cluster.Manned) (me : Address) :
    ((cluster.reached me).map Prod.fst).Sublist cluster.hub.rpcView.members := by
  rw [manned.reached_fst]
  split
  · exact List.filter_sublist
  · exact List.nil_sublist _

/-- No node is reached twice. -/
theorem Manned.reachedAddresses_nodup {cluster : Cluster} (manned : cluster.Manned)
    (me : Address) : (cluster.reachedAddresses me).Nodup := by
  have distinct := manned.view.sublist (manned.reached_sublist me)
  refine List.pairwise_map.mpr
    ((List.pairwise_map.mp distinct).imp_of_mem fun {left right} isLeft isRight differ same => ?_)
  obtain ⟨-, leftMember, leftBehind⟩ := manned.of_reached isLeft
  obtain ⟨-, rightMember, rightBehind⟩ := manned.of_reached isRight
  exact differ (manned.singly left.1 leftMember right.1 rightMember
    (by rw [leftBehind, rightBehind, same]))

/-- Who gets a request are the nodes that it reaches. -/
theorem Manned.audience_eq {cluster : Cluster} (manned : cluster.Manned) (me : Address) :
    cluster.hub.audience me =
      (cluster.reached me).map fun entry => (entry.1, .node entry.2.address) := by
  rw [Hub.audience, reached]
  split
  · rw [List.map_filterMap]
    refine List.filterMap_congr fun rpc member => ?_
    obtain ⟨node, isNode, behind⟩ := manned.answered rpc (List.mem_of_mem_filter member)
    rw [behind, Option.bind_some, node?_eq_some manned.nodes isNode]
    rw [Hub.nodeBehind?] at behind
    split at behind
    · rename_i key address found
      have named := List.find?_some found
      simp only [decide_eq_true_eq] at named
      obtain rfl := Option.some.inj behind
      rw [found, named]
      rfl
    · simp at behind
  · rfl

/-! ## What comes back -/

/-- What a node holds when the nodes with some addresses have served a request. -/
def servedAt (request : Request) (addresses : List Address) (node : Node) : Replica :=
  if node.address ∈ addresses then (node.replica.serve request).2 else node.replica

theorem servedAt_congr (request : Request) {addresses others : List Address}
    (same : ∀ address, address ∈ addresses ↔ address ∈ others) :
    servedAt request addresses = servedAt request others :=
  funext fun node => if_congr (same node.address) rfl rfl

/-- A node that is asked serves the request, and all others do not notice it. -/
theorem answer_eq (request : Request) {cluster : Cluster} {node : Node}
    (distinct : (cluster.nodes.map Node.address).Nodup) (listed : node ∈ cluster.nodes) :
    cluster.answer request (.node node.address) =
      ((node.replica.serve request).1.toOption,
        cluster.revise (servedAt request [node.address]) []) := by
  have served : cluster.answer request (.node node.address) =
      ((node.replica.serve request).1.toOption,
        cluster.setReplica node.address (node.replica.serve request).2) := by
    rw [answer, node?_eq_some distinct listed]
  rw [served, setReplica_eq]
  refine congrArg (Prod.mk _) (revise_congr _ fun other isNode => ?_)
  by_cases same : other.address = node.address
  · obtain rfl := List.inj_on_of_nodup_map distinct isNode listed same
    simp [servedAt]
  · simp [servedAt, same]

/-- One node serves a request, and then some others do. -/
theorem revise_servedAt {request : Request} {address : Address} {addresses : List Address}
    (fresh : address ∉ addresses) (cluster : Cluster) :
    (cluster.revise (servedAt request [address]) []).revise (servedAt request addresses) [] =
      cluster.revise (servedAt request (address :: addresses)) [] := by
  rw [revise_revise]
  refine revise_congr _ fun node _ => ?_
  by_cases same : node.address = address
  · simp [servedAt, same, fresh]
  · simp [servedAt, same]

/-- Whoever has not been asked yet does not notice it. -/
theorem mem_nodes_of_servedAt {request : Request} {cluster : Cluster} {address : Address}
    {node : Node} (listed : node ∈ cluster.nodes) (other : node.address ≠ address) :
    node ∈ (cluster.revise (servedAt request [address]) []).nodes := by
  rw [nodes_revise]
  exact List.mem_map.mpr ⟨node, listed, by simp [servedAt, other]⟩

/-- Asking one node after the other: each reached one serves the request, and the replies stand in
the order of asking. -/
theorem collect_eq (request : Request) {entries : List (Address × Node)} {cluster : Cluster}
    (distinct : (cluster.nodes.map Node.address).Nodup)
    (once : (entries.map fun entry => entry.2.address).Nodup)
    (present : ∀ entry ∈ entries, entry.2 ∈ cluster.nodes) :
    collect request (entries.map fun entry => (entry.1, .node entry.2.address)) cluster =
      (entries.filterMap fun entry =>
        (entry.2.replica.reply? request).map fun reply => (entry.1, reply),
      cluster.revise (servedAt request (entries.map fun entry => entry.2.address)) []) := by
  induction entries generalizing cluster with
  | nil =>
      rw [revise_self (by simp [servedAt])]
      rfl
  | cons head rest induction =>
      obtain ⟨rpc, node⟩ := head
      obtain ⟨fresh, once⟩ := List.nodup_cons.mp once
      have listed : node ∈ cluster.nodes := present (rpc, node) (by simp)
      have present' : ∀ entry ∈ rest,
          entry.2 ∈ (cluster.revise (servedAt request [node.address]) []).nodes :=
        fun entry member => mem_nodes_of_servedAt (present entry (by simp [member]))
          fun same => fresh (List.mem_map.mpr ⟨entry, member, same⟩)
      have distinct' :
          ((cluster.revise (servedAt request [node.address]) []).nodes.map Node.address).Nodup := by
        rw [addresses_revise]
        exact distinct
      have others := induction distinct' once present'
      have arrival : ((node.replica.serve request).1.toOption.bind fun sent =>
          (Wire.transmit sent).toOption) = node.replica.reply? request := rfl
      rw [List.map_cons, collect, answer_eq request distinct listed]
      simp only [others, revise_servedAt fresh, arrival]
      cases reply : node.replica.reply? request with
      | none => simp [reply]
      | some received => simp [reply]

/-- Sorting what is in order already changes nothing. -/
theorem sortByRank_of_ascending {element : Type} {rank : element → Nat}
    {elements : List element}
    (ascending : elements.Pairwise fun earlier later => rank earlier < rank later) :
    sortByRank rank elements = elements := by
  induction elements with
  | nil => rfl
  | cons head rest induction =>
      obtain ⟨above, sorted⟩ := List.pairwise_cons.mp ascending
      have unfolded : sortByRank rank (head :: rest) =
          insertByRank rank head (sortByRank rank rest) := rfl
      rw [unfolded, induction sorted]
      cases rest with
      | nil => rfl
      | cons next rest => rw [insertByRank, if_pos (Nat.le_of_lt (above next (by simp)))]

theorem position?_getElem {view : View} (distinct : view.members.Nodup) {place : Nat}
    (inside : place < view.members.length) :
    view.position? view.members[place] = some place := by
  refine List.findIdx?_eq_some_iff_getElem.mpr ⟨inside, by simp, fun earlier before same => ?_⟩
  have equal : view.members[earlier] = view.members[place] := by simpa using same
  have places : earlier = place := (List.Nodup.getElem_inj_iff distinct).mp equal
  omega

/-- Members of a view are in the order of their positions. -/
theorem rankIn_ascending {view : View} (distinct : view.members.Nodup) :
    view.members.Pairwise fun earlier later =>
      Ballot.rankIn view earlier < Ballot.rankIn view later := by
  refine List.pairwise_iff_getElem.mpr fun left right leftInside rightInside below => ?_
  simp only [Ballot.rankIn, position?_getElem distinct, Option.getD_some]
  have bound := view.members[left].rank_lt
  unfold UInt64.size at *
  omega

/-- Who replies is somebody who was asked. -/
theorem voters_sublist (cluster : Cluster) (me : Address) (request : Request) :
    ((cluster.votes me request).map Prod.fst).Sublist ((cluster.reached me).map Prod.fst) := by
  rw [votes]
  induction cluster.reached me with
  | nil => exact .slnil
  | cons entry rest induction =>
      cases reply : entry.2.replica.reply? request with
      | none =>
          rw [List.filterMap_cons_none (by simp [reply])]
          exact induction.cons _
      | some vote =>
          rw [List.filterMap_cons_some (b := (entry.1, vote)) (by simp [reply])]
          exact induction.cons_cons _

theorem Manned.voters_nodup {cluster : Cluster} (manned : cluster.Manned) (me : Address)
    (request : Request) : ((cluster.votes me request).map Prod.fst).Nodup :=
  manned.view.sublist ((cluster.voters_sublist me request).trans (manned.reached_sublist me))

theorem Manned.votes_inViewOrder {cluster : Cluster} (manned : cluster.Manned) (me : Address)
    (request : Request) :
    Ballot.inViewOrder cluster.hub.rpcView (cluster.votes me request) =
      cluster.votes me request := by
  have inside := (cluster.voters_sublist me request).trans (manned.reached_sublist me)
  have ascending := (rankIn_ascending manned.view).sublist inside
  rw [List.pairwise_map] at ascending
  exact sortByRank_of_ascending ascending

/-- The nodes that a request reaches serve it, and all others do not notice it. -/
theorem Manned.callAll_eq {cluster : Cluster} (manned : cluster.Manned) (me : Address)
    {request : Request} (storable : request.Storable) :
    cluster.callAll me request =
      (cluster.votes me request, cluster.revise (cluster.afterRequest me request) []) := by
  rw [callAll, Wire.transmit_of_survives (Wire.survives_request storable)]
  simp only [manned.audience_eq me]
  exact collect_eq request manned.nodes (manned.reachedAddresses_nodup me) fun entry member =>
    (manned.of_reached member).1

/-! ## Revised clusters -/

/-- Everybody keeps their place while replicas change. -/
theorem Arranged.revise {cluster : Cluster} (arranged : cluster.Arranged)
    {replica : Node → Replica}
    (limit : ∀ node ∈ cluster.nodes, (replica node).probeLimit = node.replica.probeLimit)
    (more : List Notice) : (cluster.revise replica more).Arranged := by
  have running {address : Address} :
      address ∈ (cluster.revise replica more).running.map Node.address ↔
        address ∈ cluster.running.map Node.address := by
    rw [runningAddresses_revise]
  refine ⟨?_, arranged.members, ?_, arranged.view, ?_, arranged.singly, ?_, ?_⟩
  · rw [addresses_revise]
    exact arranged.nodes
  · intro coordinator listed node isRunning
    obtain ⟨old, wasRunning, same⟩ := List.mem_map.mp (running.mp (List.mem_map_of_mem isRunning))
    exact same ▸ arranged.apart coordinator listed old wasRunning
  · intro rpc member
    obtain ⟨node, isRunning, behind⟩ := arranged.answered rpc member
    obtain ⟨next, nowRunning, same⟩ := List.mem_map.mp (running.mpr (List.mem_map_of_mem isRunning))
    exact ⟨next, nowRunning, same.symm ▸ behind⟩
  · intro node isRunning
    obtain ⟨old, wasRunning, same⟩ := List.mem_map.mp (running.mp (List.mem_map_of_mem isRunning))
    exact same ▸ arranged.enrolled old wasRunning
  · intro node listed
    rw [nodes_revise] at listed
    obtain ⟨old, isNode, rfl⟩ := List.mem_map.mp listed
    exact (limit old isNode).trans (arranged.configured old isNode)

theorem Drained.revise {cluster : Cluster} (drained : cluster.Drained) (replica : Node → Replica)
    (more : List Notice) : (cluster.revise replica more).Drained := by
  have listeners : (cluster.revise replica more).listeners = cluster.listeners := by
    rw [Cluster.listeners, Cluster.listeners, runningAddresses_revise]
    rfl
  intro member listed listens
  exact drained member listed (listeners ▸ listens)

/-- A cluster stays orderly while its replicas change. -/
theorem Orderly.revise {cluster : Cluster} (orderly : cluster.Orderly) {replica : Node → Replica}
    (limit : ∀ node ∈ cluster.nodes, (replica node).probeLimit = node.replica.probeLimit)
    (more : List Notice) : (cluster.revise replica more).Orderly :=
  ⟨orderly.toArranged.revise limit more, orderly.drained.revise replica more⟩

theorem reached_revise (cluster : Cluster) (replica : Node → Replica) (more : List Notice)
    (me : Address) :
    (cluster.revise replica more).reached me =
      (cluster.reached me).map fun entry =>
        (entry.1, { entry.2 with replica := replica entry.2 }) := by
  rw [reached, reached, hub_revise]
  split
  · rw [List.map_filterMap]
    refine List.filterMap_congr fun rpc _ => ?_
    cases cluster.hub.nodeBehind? rpc with
    | none => rfl
    | some address =>
        simp only [Option.bind_some, node?_revise, Option.map_map]
        rfl
  · rfl

theorem Truthful.revise {cluster : Cluster} {me : Address} (truthful : cluster.Truthful me)
    (replica : Node → Replica) (more : List Notice) :
    (cluster.revise replica more).Truthful me :=
  truthful

/-- Cutting off an address changes nobody's place. -/
theorem Orderly.isolate {cluster : Cluster} (orderly : cluster.Orderly) (address : Address) :
    (cluster.isolate address).Orderly :=
  ⟨⟨orderly.nodes, orderly.members, orderly.apart, orderly.view, orderly.answered, orderly.singly,
    orderly.enrolled, orderly.configured⟩, orderly.drained⟩

/-! ## An orderly cluster -/

/-- A coordinator with three nodes, of which the last one has drifted. -/
def drifted : Cluster :=
  let replica := Replica.fresh 1000 5000
  let member (multicast rpc : UInt64) : Member StateSource :=
    { address := ⟨.multicast, multicast⟩, isSubscribed := true, source := some .node
      rpc := some ⟨.rpc, rpc⟩, queue := [] }
  { fresh .standard none (.table []) with
    hub := {
      lastId := 7
      multicastView := ⟨3, [⟨.multicast, 2⟩, ⟨.multicast, 4⟩, ⟨.multicast, 6⟩]⟩
      rpcView := ⟨3, [⟨.rpc, 3⟩, ⟨.rpc, 5⟩, ⟨.rpc, 7⟩]⟩
      members := [
        { address := ⟨.multicast, 1⟩, isSubscribed := true, source := none, rpc := none
          queue := [] },
        member 2 3, member 4 5, member 6 7]
      handlers := [
        (⟨.rpc, 3⟩, .node ⟨.multicast, 2⟩), (⟨.rpc, 5⟩, .node ⟨.multicast, 4⟩),
        (⟨.rpc, 7⟩, .node ⟨.multicast, 6⟩)]
      isolated := [] }
    nodes := [
      ⟨⟨.multicast, 2⟩, replica, .serving⟩, ⟨⟨.multicast, 4⟩, replica, .serving⟩,
      ⟨⟨.multicast, 6⟩, { replica with fingerprint := 8 }, .serving⟩]
    coordinators := [
      { address := ⟨.multicast, 1⟩
        book := ⟨[(⟨.rpc, 7⟩, ⟨.multicast, 6⟩), (⟨.rpc, 5⟩, ⟨.multicast, 4⟩),
          (⟨.rpc, 3⟩, ⟨.multicast, 2⟩)]⟩
        sessions := .empty }] }

theorem orderly_drifted : drifted.Orderly where
  nodes := by decide
  members := by decide
  apart := by unfold Apart; decide
  view := by decide
  answered := by decide
  singly := by decide
  enrolled := by
    have running : drifted.running = drifted.nodes := rfl
    rw [running]
    simp [drifted, Hub.nodeBehind?]
  configured := by decide
  drained := by unfold Drained; decide

end Cluster

end AuctionHouse
