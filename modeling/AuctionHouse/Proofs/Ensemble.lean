import AuctionHouse.Cluster.Client
import AuctionHouse.Proofs.Agreement
import AuctionHouse.Proofs.Arrivals

/-!
# Nodes that have started one after the other

Nodes that start while nothing goes wrong take their places in both groups in the order of their
start.  As long as none of them leaves they are all there is, and they all hold the same replica,
whatever they have served.
-/

namespace AuctionHouse

namespace Cluster

variable {cluster : Cluster} {me : Address}

/-! ## Starting -/

/-- The seed, if there is one, is of use to a replica. -/
def Seeded (cluster : Cluster) : Prop :=
  ∀ contents, cluster.seed = some contents →
    ∃ rows, ((Replica.fresh cluster.settings.firstId cluster.settings.probeLimit).seedFile
      contents).1 = .ok rows

/-- A joining node gets a state, unless the seed is of no use. -/
theorem Undisturbed.exists_attempt (undisturbed : cluster.Undisturbed me)
    (drained : cluster.Drained) (texts : cluster.Storable) (seeded : cluster.Seeded)
    {multicast : Address} {joined : Hub StateSource Answerer}
    (join : cluster.hub.join? .node = some (multicast, joined))
    (fresh : ∀ node ∈ cluster.nodes, node.address ≠ multicast) :
    ∃ ready, (cluster.enlarged joined (cluster.joining multicast)).attempt multicast =
      .ready ready := by
  obtain ⟨begun, isBegun⟩ : ∃ begun, begun = cluster.enlarged joined (cluster.joining multicast) :=
    ⟨_, rfl⟩
  have oldest : begun.hub.multicastView.oldestOther? multicast =
      cluster.running.head?.map Node.address := by
    rw [isBegun]
    exact undisturbed.oldestOther?_of_join join fresh
  rw [← isBegun, attempt, oldest]
  cases runs : cluster.running with
  | cons node rest =>
      have isRunning : node ∈ cluster.running := by simp [runs]
      have fetched := undisturbed.fetchSnapshot_joining drained texts join isRunning
      rw [← isBegun] at fetched
      simp only [List.head?_cons, Option.map_some, fetched]
      exact ⟨_, rfl⟩
  | nil =>
      have seed : begun.seed = cluster.seed := by
        rw [isBegun]
        rfl
      have listed : begun.node? multicast = some (cluster.joining multicast) := by
        rw [isBegun]
        exact node?_enlarged fresh joined
      simp only [List.head?_nil, Option.map_none, seed, listed]
      cases named : cluster.seed with
      | none => exact ⟨_, rfl⟩
      | some contents =>
          obtain ⟨rows, useful⟩ := seeded contents named
          cases result : (cluster.joining multicast).replica.seedFile contents with
          | mk answer replica =>
              have answered : answer = .ok rows := by
                rw [← useful]
                exact congrArg Prod.fst result.symm
              subst answered
              simp only [result]
              exact ⟨_, rfl⟩

/-- Nothing keeps a node from starting while there are numbers left. -/
theorem Undisturbed.exists_startNode (undisturbed : cluster.Undisturbed me)
    (drained : cluster.Drained) (texts : cluster.Storable) (seeded : cluster.Seeded)
    (room : cluster.hub.lastId.toNat + 2 < UInt64.size) :
    ∃ multicast rpc after, cluster.startNode = (.ok (multicast, rpc), after) := by
  have quiescent := undisturbed.quiescent drained
  have unused : cluster.hub.lastId.toNat + 1 < UInt64.size := by omega
  obtain ⟨multicast, joined, join, last⟩ := Hub.exists_join unused StateSource.node
  have fresh := quiescent.ne_of_join join
  obtain ⟨ready, attempted⟩ := undisturbed.exists_attempt drained texts seeded join fresh
  obtain ⟨given, rfl, -⟩ := attempt_eq_ready fresh attempted
  have next : joined.lastId.toNat + 1 < UInt64.size := by
    rw [last, UInt64.toNat_add, UInt64.toNat_one]
    omega
  obtain ⟨rpc, serving, joinRpc⟩ := Hub.exists_joinRpc next multicast (Answerer.node multicast)
  obtain ⟨announced, announce, -⟩ := serving.exists_announce multicast rpc
  have begun : (cluster.enlarged joined ⟨multicast, given, .joining⟩).beginServing multicast =
      (.ok rpc, cluster.enlarged announced ⟨multicast, given, .serving⟩) :=
    beginServing_enlarged fresh joinRpc announce
  have joinNode : cluster.joinNode? =
      some (multicast, cluster.enlarged joined (cluster.joining multicast)) := by
    rw [joinNode?, join]
    rfl
  refine ⟨multicast, rpc, (cluster.enlarged announced ⟨multicast, given, .serving⟩).settle, ?_⟩
  rw [Cluster.startNode, startNodeAmid]
  simp only [joinNode, initialise, attempted, begun]
  rfl

/-! ## Ensembles -/

/-- All nodes have started one after the other and none has left.  Each has its two addresses, in
the order in which they stand in the view, and all hold the same replica. -/
structure Ensemble (cluster : Cluster) (me : Address) (seats : List (Address × Address))
    (replica : Replica) : Prop where
  undisturbed : cluster.Undisturbed me
  drained : cluster.Drained
  nodes : cluster.nodes = seats.map fun seat => ⟨seat.1, replica, .serving⟩
  view : cluster.hub.rpcView.members = seats.map Prod.snd
  behind : ∀ seat ∈ seats, cluster.hub.nodeBehind? seat.2 = some seat.1
  channels : ∀ seat ∈ seats, seat.2.channel = .rpc
  texts : replica.snapshot.Storable

variable {seats : List (Address × Address)} {replica : Replica}

theorem Ensemble.running_eq (ensemble : cluster.Ensemble me seats replica) :
    cluster.running = cluster.nodes := by
  refine List.filter_eq_self.mpr fun node listed => ?_
  rw [ensemble.nodes] at listed
  obtain ⟨seat, -, rfl⟩ := List.mem_map.mp listed
  rfl

theorem Ensemble.unanimous (ensemble : cluster.Ensemble me seats replica) :
    cluster.Unanimous replica := by
  intro node isRunning
  rw [ensemble.running_eq, ensemble.nodes] at isRunning
  obtain ⟨seat, -, rfl⟩ := List.mem_map.mp isRunning
  rfl

theorem Ensemble.storable (ensemble : cluster.Ensemble me seats replica) : cluster.Storable := by
  intro node isRunning
  rw [ensemble.unanimous node isRunning]
  exact ensemble.texts

theorem Ensemble.orderly (ensemble : cluster.Ensemble me seats replica) : cluster.Orderly :=
  ensemble.undisturbed.orderly ensemble.drained

theorem Ensemble.mem_nodes (ensemble : cluster.Ensemble me seats replica)
    {seat : Address × Address} (member : seat ∈ seats) :
    ⟨seat.1, replica, .serving⟩ ∈ cluster.nodes := by
  rw [ensemble.nodes]
  exact List.mem_map_of_mem member

theorem Ensemble.exists_reached (ensemble : cluster.Ensemble me seats replica) {node : Node}
    (listed : node ∈ cluster.nodes) : ∃ rpc, (rpc, node) ∈ cluster.reached me :=
  ensemble.undisturbed.connected.exists_reached ensemble.orderly.toArranged
    (ensemble.running_eq ▸ listed)

theorem Ensemble.reached_ne_nil (ensemble : cluster.Ensemble me seats replica)
    (inhabited : seats ≠ []) : cluster.reached me ≠ [] := by
  obtain ⟨seat, member⟩ := List.exists_mem_of_ne_nil _ inhabited
  obtain ⟨rpc, isReached⟩ := ensemble.exists_reached (ensemble.mem_nodes member)
  exact List.ne_nil_of_mem isReached

/-- When all nodes replace their replicas by the same other one they are still an ensemble. -/
theorem Ensemble.revise (ensemble : cluster.Ensemble me seats replica) {after : Replica}
    (texts : after.snapshot.Storable) (limit : after.probeLimit = replica.probeLimit)
    {given : Node → Replica} (same : ∀ node ∈ cluster.nodes, given node = after)
    (more : List Notice) : (cluster.revise given more).Ensemble me seats after where
  undisturbed := by
    refine ensemble.undisturbed.revise (fun node listed => ?_) more
    rw [same node listed, limit, ensemble.unanimous node (ensemble.running_eq ▸ listed)]
  drained := ensemble.drained.revise given more
  nodes := by
    have replaced : (cluster.nodes.map fun node => { node with replica := given node }) =
        cluster.nodes.map fun node => { node with replica := after } :=
      List.map_congr_left fun node listed => by rw [same node listed]
    rw [nodes_revise, replaced, ensemble.nodes, List.map_map]
    rfl
  view := ensemble.view
  behind := ensemble.behind
  channels := ensemble.channels
  texts := texts

/-- One node more, which holds what the others hold. -/
theorem Ensemble.start (ensemble : cluster.Ensemble me seats replica)
    (first : replica = .first cluster.settings cluster.seed) (seeded : cluster.Seeded)
    (room : cluster.hub.lastId.toNat + 2 < UInt64.size) :
    ∃ seat after, cluster.startNode = (.ok seat, after) ∧
      after.Ensemble me (seats ++ [seat]) replica ∧
      after.configuration = cluster.configuration ∧
      after.hub.lastId = cluster.hub.lastId + 1 + 1 := by
  obtain ⟨multicast, rpc, after, started⟩ := ensemble.undisturbed.exists_startNode ensemble.drained
    ensemble.storable seeded room
  obtain ⟨undisturbed, drained, -, configured⟩ :=
    ensemble.undisturbed.startNode ensemble.drained ensemble.storable started
  obtain ⟨free, channel, -, rfl⟩ :=
    ensemble.undisturbed.startNode_eq ensemble.drained ensemble.storable started
  have heir : cluster.heir = replica := by
    rw [Cluster.heir]
    cases runs : cluster.running with
    | nil => exact first.symm
    | cons node rest => exact ensemble.unanimous node (by simp [runs])
  refine ⟨(multicast, rpc), _, started,
    ⟨undisturbed, drained, ?_, ?_, ?_, ?_, ensemble.texts⟩, configured, rfl⟩
  · change cluster.nodes ++ [⟨multicast, cluster.heir, .serving⟩] = _
    rw [heir, ensemble.nodes, List.map_append]
    rfl
  · change cluster.hub.rpcView.members ++ [rpc] = _
    rw [ensemble.view, List.map_append]
    rfl
  · intro seat member
    change (cluster.hub.admitted .node (.node multicast) multicast rpc).nodeBehind? seat.2 = _
    rcases List.mem_append.mp member with old | new
    · exact Hub.nodeBehind?_admitted_of_some _ _ _ (ensemble.behind seat old)
    · obtain rfl := List.mem_singleton.mp new
      exact Hub.nodeBehind?_admitted_self _ free.handlers _ _
  · intro seat member
    rcases List.mem_append.mp member with old | new
    · exact ensemble.channels seat old
    · obtain rfl := List.mem_singleton.mp new
      exact channel

/-- All nodes serve a request alike. -/
theorem Ensemble.invoke (ensemble : cluster.Ensemble me seats replica) (inhabited : seats ≠ [])
    {request : Request} {reply : Reply} {after : Replica}
    (served : replica.serve request = (.ok reply, after)) (storable : request.Storable)
    (legible : reply.Storable) (equal : (reply == reply) = true) :
    ∃ next, cluster.invoke me request = (.ok reply, next) ∧ next.Ensemble me seats after ∧
      next.configuration = cluster.configuration := by
  have someone := ensemble.reached_ne_nil inhabited
  refine ⟨_, ensemble.unanimous.invoke_eq ensemble.orderly someone storable
    (congrArg Prod.fst served) legible equal, ?_, rfl⟩
  have state : (replica.serve request).2 = after := congrArg Prod.snd served
  refine ensemble.revise ?_ ?_ (fun node listed => ?_) []
  · rw [← state]
    exact Replica.storable_serve ensemble.texts storable
  · rw [← state]
    exact Replica.probeLimit_serve replica request
  · obtain ⟨rpc, isReached⟩ := ensemble.exists_reached listed
    rw [afterRequest_of_reached isReached,
      ensemble.unanimous node (ensemble.running_eq ▸ listed), state]

section Coordinators

variable {change : Coordinator → Coordinator}
  (named : ∀ coordinator, (change coordinator).address = coordinator.address)
  (noted : ∀ coordinator, (change coordinator).book = coordinator.book)

include named

/-- The coordinators keep their addresses. -/
theorem addresses_modifyCoordinator (cluster : Cluster) (address : Address) :
    (cluster.modifyCoordinator address change).coordinators.map Coordinator.address =
      cluster.coordinators.map Coordinator.address := by
  rw [Cluster.modifyCoordinator, List.map_map]
  refine List.map_congr_left fun coordinator _ => ?_
  rw [Function.comp_apply]
  split
  · exact named coordinator
  · rfl

include noted

/-- The coordinators keep their books. -/
theorem bookOf_modifyCoordinator (cluster : Cluster) (address me : Address) :
    (cluster.modifyCoordinator address change).bookOf me = cluster.bookOf me := by
  have found : (cluster.modifyCoordinator address change).coordinator? me =
      (cluster.coordinator? me).map fun coordinator =>
        if coordinator.address = address then change coordinator else coordinator := by
    refine find?_map_of_named (fun coordinator => ?_) cluster.coordinators me
    split
    · exact named coordinator
    · rfl
  rw [bookOf, bookOf, found]
  cases cluster.coordinator? me with
  | none => rfl
  | some coordinator =>
      rw [Option.map_some]
      split
      · exact noted coordinator
      · rfl

theorem Undisturbed.modifyCoordinator (undisturbed : cluster.Undisturbed me) (address : Address) :
    (cluster.modifyCoordinator address change).Undisturbed me := by
  have addresses := addresses_modifyCoordinator named cluster address
  have apart : (cluster.modifyCoordinator address change).Apart := by
    intro coordinator listed node isRunning
    have isOld : coordinator.address ∈ cluster.coordinators.map Coordinator.address :=
      addresses ▸ List.mem_map_of_mem listed
    obtain ⟨old, wasListed, same⟩ := List.mem_map.mp isOld
    rw [← same]
    exact undisturbed.apart old wasListed node isRunning
  refine ⟨⟨⟨undisturbed.nodes, undisturbed.members, apart, undisturbed.view,
    undisturbed.answered, undisturbed.singly, undisturbed.enrolled, undisturbed.configured⟩,
    undisturbed.whole, addresses.trans undisturbed.sole, undisturbed.listening,
    undisturbed.grouped, undisturbed.joined, undisturbed.numbered⟩, fun rpc listed => ?_⟩
  rw [bookOf_modifyCoordinator named noted]
  exact undisturbed.told rpc listed

end Coordinators

/-- What a coordinator notes about its sessions is no concern of the nodes. -/
theorem Ensemble.modifyCoordinator (ensemble : cluster.Ensemble me seats replica)
    (address : Address) {change : Coordinator → Coordinator}
    (named : ∀ coordinator, (change coordinator).address = coordinator.address)
    (noted : ∀ coordinator, (change coordinator).book = coordinator.book) :
    (cluster.modifyCoordinator address change).Ensemble me seats replica where
  undisturbed := ensemble.undisturbed.modifyCoordinator named noted address
  drained := by
    intro member listed listens
    rw [listeners, addresses_modifyCoordinator named] at listens
    exact ensemble.drained member listed listens
  nodes := ensemble.nodes
  view := ensemble.view
  behind := ensemble.behind
  channels := ensemble.channels
  texts := ensemble.texts

/-! ## Clients -/

theorem Ensemble.touch (ensemble : cluster.Ensemble me seats replica) (client : Client)
    (now : Nat) : (cluster.touch client now).Ensemble me seats replica :=
  ensemble.modifyCoordinator _ (fun _ => rfl) fun _ => rfl

theorem Ensemble.onSessions {result : Type} (ensemble : cluster.Ensemble me seats replica)
    (address : Address) (change : SessionStore → result × SessionStore) :
    (cluster.onSessions address change).2.Ensemble me seats replica :=
  ensemble.modifyCoordinator _ (fun _ => rfl) fun _ => rfl

/-- A user who signs in gets a session with the coordinator in the user's name. -/
theorem Ensemble.signIn (ensemble : cluster.Ensemble me seats replica) (kind : SessionKind)
    (user : String) (now : Nat) :
    ∃ client after, cluster.signIn me kind user now = (client, after) ∧
      client.coordinator = me ∧ client.session.user = user ∧
      after.Ensemble me seats replica ∧ after.configuration = cluster.configuration := by
  refine ⟨_, _, rfl, rfl, ?_,
    ensemble.onSessions me fun sessions => sessions.enter kind user now, rfl⟩
  change ((cluster.sessionsOf me).enter kind user now).1.user = user
  rw [SessionStore.enter]
  split
  · rename_i session found
    exact (SessionStore.isFor_of_find? found).2
  · rfl

section Clients

variable {client : Client} {after : Replica}

/-- A seller gets the number that each node gives, if there is one. -/
theorem Ensemble.sellerCreate (ensemble : cluster.Ensemble me seats replica)
    (inhabited : seats ≠ []) (fronted : client.coordinator = me) (now : Nat)
    {startPrice minPrice : Price} {description : String} {auction : Auction}
    (opens : auction = .unbid client.session.user startPrice.atLeastZero description
      minPrice.atLeastZero)
    (storable : auction.Storable) {id : Option AuctionId}
    (served : replica.serve (.addAuction auction) = (.ok (.added id), after)) :
    ∃ next, cluster.sellerCreate client now startPrice description minPrice =
        (id.elim (.error .capacityExhausted) .ok, next) ∧
      next.Ensemble me seats after ∧ next.configuration = cluster.configuration := by
  obtain ⟨next, invoked, follows, configured⟩ :=
    (ensemble.touch client now).invoke inhabited served storable trivial (beq_self_eq_true id)
  refine ⟨next, ?_, follows, configured⟩
  rw [Cluster.sellerCreate, createAuction, fronted, ← opens, invoked]
  cases id with
  | none => rfl
  | some id => rfl

/-- A bidder is told what each node makes of the bid. -/
theorem Ensemble.bidderBid (ensemble : cluster.Ensemble me seats replica) (inhabited : seats ≠ [])
    (fronted : client.coordinator = me) (now : Nat) {id : AuctionId} {amount : Price}
    {user email : String} (named : client.session.user = user)
    (known : cluster.accounts.emailOrPlaceholder user = email)
    (storable : Text.Storable user ∧ Text.Storable email) {outcome : BidOutcome}
    (served : replica.serve (.placeBid id amount user email) = (.ok (.bid outcome), after)) :
    ∃ next, cluster.bidderBid client now id amount = (.ok outcome, next) ∧
      next.Ensemble me seats after ∧ next.configuration = cluster.configuration := by
  obtain ⟨next, invoked, follows, configured⟩ :=
    (ensemble.touch client now).invoke inhabited served storable trivial (beq_self_eq_true outcome)
  refine ⟨next, ?_, follows, configured⟩
  have address : (cluster.touch client now).accounts.emailOrPlaceholder user = email := known
  simp only [Cluster.bidderBid, placeBid, fronted, named, address, invoked]

/-- A bidder sees the table of each node. -/
theorem Ensemble.bidderListings (ensemble : cluster.Ensemble me seats replica)
    (inhabited : seats ≠ []) (fronted : client.coordinator = me) (now : Nat)
    (legible : Text.Storable replica.listings) :
    ∃ next, cluster.bidderListings client now = (.ok replica.listings, next) ∧
      next.Ensemble me seats replica ∧ next.configuration = cluster.configuration := by
  obtain ⟨next, invoked, follows, configured⟩ :=
    (ensemble.touch client now).invoke inhabited replica.serve_listings trivial legible
      (beq_self_eq_true replica.listings)
  refine ⟨next, ?_, follows, configured⟩
  rw [Cluster.bidderListings, listings, fronted, invoked]

/-- A seller is told what closing the auction amounts to. -/
theorem Ensemble.sellerClose (ensemble : cluster.Ensemble me seats replica)
    (inhabited : seats ≠ []) (fronted : client.coordinator = me) (now : Nat) {id : AuctionId}
    {user : String} (named : client.session.user = user) (storable : Text.Storable user)
    {auction : Auction} (legible : auction.Storable) (priced : auction.Priced)
    (served : replica.serve (.removeAuction user id) = (.ok (.removed (some auction)), after)) :
    ∃ next, cluster.sellerClose client now id = (.ok auction.conclude, next) ∧
      next.Ensemble me seats after ∧ next.configuration = cluster.configuration := by
  obtain ⟨next, invoked, follows, configured⟩ :=
    (ensemble.touch client now).invoke inhabited served storable legible
      (auction.beq_self_iff.mpr priced)
  refine ⟨next, ?_, follows, configured⟩
  rw [Cluster.sellerClose, closeAuction, fronted, named, invoked]

end Clients

end Cluster

end AuctionHouse
