import AuctionHouse.Proofs.Course

/-!
# Who is who in a course of events

After a course of events that begins with a hub without processes every process is a coordinator or
a node, nobody is both, and the phase of a node says how far it has come: a joining node receives
events and has not announced itself, and whoever has left or stopped receives nothing and does not
come back.
-/

namespace AuctionHouse.Cluster

variable {cluster after : Cluster} {past : List (Cluster × Occurrence)}
  {occurrence : Occurrence}

theorem mem_snoc {other : Occurrence} :
    other ∈ (past ++ [(cluster, occurrence)]).map Prod.snd ↔
      other ∈ past.map Prod.snd ∨ other = occurrence := by
  simp

/-- Who is who after a course of events. -/
structure Cast (past : List (Cluster × Occurrence)) (cluster : Cluster) : Prop where
  /-- The hub is in order. -/
  proper : cluster.hub.Proper
  /-- No two nodes share an address. -/
  nodes : (cluster.nodes.map Node.address).Nodup
  /-- Every node has joined. -/
  joined : ∀ multicast ∈ cluster.nodes.map Node.address,
    multicast ∈ cluster.hub.members.map Member.address
  /-- A joining node receives events and has not announced itself. -/
  joining : ∀ node ∈ cluster.nodes, node.phase = .joining →
    cluster.hub.Listens node.address ∧ ∀ rpc, .announced node.address rpc ∉ past.map Prod.snd
  /-- A node that has stopped receives nothing. -/
  stopped : ∀ node ∈ cluster.nodes, node.phase = .stopped → ¬cluster.hub.Listens node.address
  /-- Whoever has left is known to the hub and receives nothing. -/
  departed : ∀ {address : Address}, .left address ∈ past.map Prod.snd →
    address ∈ cluster.hub.members.map Member.address ∧ ¬cluster.hub.Listens address
  /-- Only nodes announce themselves. -/
  announced : ∀ {multicast rpc : Address}, .announced multicast rpc ∈ past.map Prod.snd →
    multicast ∈ cluster.nodes.map Node.address
  /-- The coordinators are those that have attached. -/
  attached : ∀ {me : Address}, .attached me ∈ past.map Prod.snd ↔
    me ∈ cluster.coordinators.map Coordinator.address
  /-- Every coordinator is known to the hub. -/
  enlisted : ∀ me ∈ cluster.coordinators.map Coordinator.address,
    me ∈ cluster.hub.members.map Member.address
  /-- Nobody is both a coordinator and a node. -/
  apart : ∀ me ∈ cluster.coordinators.map Coordinator.address,
    me ∉ cluster.nodes.map Node.address

/-! ## What moves nobody -/

/-- Everybody stays who they are as long as nobody comes along. -/
theorem Cast.onward (cast : Cast past cluster) (proper : after.hub.Proper)
    (known : ∀ address, address ∈ cluster.hub.members.map Member.address →
      address ∈ after.hub.members.map Member.address)
    (nodes : after.nodes.map Node.address = cluster.nodes.map Node.address)
    (coordinators : after.coordinators.map Coordinator.address =
      cluster.coordinators.map Coordinator.address)
    (joining : ∀ node ∈ after.nodes, node.phase = .joining →
      after.hub.Listens node.address ∧
        (∃ old ∈ cluster.nodes, old.address = node.address ∧ old.phase = .joining) ∧
        ∀ rpc, occurrence ≠ .announced node.address rpc)
    (stopped : ∀ node ∈ after.nodes, node.phase = .stopped → ¬after.hub.Listens node.address)
    (returning : ∀ address, after.hub.Listens address → cluster.hub.Listens address)
    (leaving : ∀ address, occurrence = .left address →
      address ∈ cluster.hub.members.map Member.address ∧ ¬after.hub.Listens address)
    (noAttaching : ∀ me, occurrence ≠ .attached me)
    (announced : ∀ multicast rpc, occurrence = .announced multicast rpc →
      multicast ∈ cluster.nodes.map Node.address) :
    Cast (past ++ [(cluster, occurrence)]) after where
  proper := proper
  nodes := nodes ▸ cast.nodes
  joined := fun multicast listed => known multicast (cast.joined multicast (nodes ▸ listed))
  joining := by
    intro node listed phase
    obtain ⟨receives, ⟨old, isNode, same, wasJoining⟩, silent⟩ := joining node listed phase
    refine ⟨receives, fun rpc member => ?_⟩
    rcases mem_snoc.mp member with before | now
    · exact (cast.joining old isNode wasJoining).2 rpc (same.symm ▸ before)
    · exact silent rpc now.symm
  stopped := stopped
  departed := by
    intro address member
    rcases mem_snoc.mp member with before | now
    · obtain ⟨isKnown, silent⟩ := cast.departed before
      exact ⟨known address isKnown, fun listens => silent (returning address listens)⟩
    · obtain ⟨isKnown, silent⟩ := leaving address now.symm
      exact ⟨known address isKnown, silent⟩
  announced := by
    intro multicast rpc member
    rw [nodes]
    rcases mem_snoc.mp member with before | now
    · exact cast.announced before
    · exact announced multicast rpc now.symm
  attached := by
    intro me
    rw [mem_snoc, coordinators, cast.attached]
    exact or_iff_left fun now => noAttaching me now.symm
  enlisted := fun me coordinates =>
    known me (cast.enlisted me (coordinators ▸ coordinates))
  apart := by
    intro me coordinates
    rw [nodes]
    exact cast.apart me (coordinators ▸ coordinates)

theorem Unmoved.listens_iff (unmoved : cluster.Unmoved after) (address : Address) :
    after.hub.Listens address ↔ cluster.hub.Listens address := by
  rw [Hub.Listens, unmoved.standing, Hub.Listens]

/-- What moves nobody changes neither who is who nor what is known. -/
theorem Cast.unmoved (cast : Cast past cluster) (unmoved : cluster.Unmoved after)
    (quiet : occurrence.isQuiet = true) :
    Cast (past ++ [(cluster, occurrence)]) after := by
  have differs {other : Occurrence} (loud : other.isQuiet = false) : occurrence ≠ other :=
    Occurrence.ne_of_isQuiet quiet loud
  obtain ⟨replica, nodes⟩ := unmoved.nodes
  have origin : ∀ node ∈ after.nodes, ∃ old ∈ cluster.nodes,
      old.address = node.address ∧ old.phase = node.phase := by
    intro node listed
    rw [nodes] at listed
    obtain ⟨old, isNode, rfl⟩ := List.mem_map.mp listed
    exact ⟨old, isNode, rfl, rfl⟩
  refine cast.onward (unmoved.proper cast.proper) (fun address known => ?_) unmoved.addresses
    unmoved.coordinators (fun node listed phase => ?_) (fun node listed phase receives => ?_)
    (fun address => (unmoved.listens_iff address).mp)
    (fun address now => absurd now (differs rfl)) (fun me => differs rfl)
    fun multicast rpc now => absurd now (differs rfl)
  · rw [← Hub.standing_isSome, unmoved.standing, Hub.standing_isSome]
    exact known
  · obtain ⟨old, isNode, same, before⟩ := origin node listed
    have receives := (cast.joining old isNode (before.trans phase)).1
    rw [unmoved.listens_iff, ← same]
    exact ⟨receives, ⟨old, isNode, rfl, before.trans phase⟩, fun rpc => differs rfl⟩
  · obtain ⟨old, isNode, same, before⟩ := origin node listed
    rw [unmoved.listens_iff, ← same] at receives
    exact cast.stopped old isNode (before.trans phase) receives

/-! ## Coming, going and announcing -/

/-- A coordinator that attaches is somebody new. -/
theorem Cast.attach (cast : Cast past cluster) {address : Address}
    {hub : Hub StateSource Answerer} (attached : cluster.hub.attach? = some (address, hub)) :
    Cast (past ++ [(cluster, .attached address)])
      { cluster with
        hub
        coordinators :=
          cluster.coordinators ++ [{ address, book := .empty, sessions := .empty }] } := by
  have fresh := Hub.fresh_of_attach cast.proper.numbered attached
  have standing := Hub.standing_attach cast.proper.numbered attached
  have members := Hub.addresses_attach attached
  have receives {other : Address} (known : other ∈ cluster.hub.members.map Member.address) :
      hub.Listens other ↔ cluster.hub.Listens other :=
    Hub.listens_of_newcomer standing fun same => fresh (same ▸ known)
  constructor
  case proper => exact cast.proper.attach attached
  case nodes => exact cast.nodes
  case joined =>
    intro multicast listed
    rw [members]
    exact List.mem_append_left _ (cast.joined multicast listed)
  case joining =>
    intro node listed phase
    obtain ⟨listens, silent⟩ := cast.joining node listed phase
    refine ⟨(receives (cast.joined _ (List.mem_map_of_mem listed))).mpr listens,
      fun rpc member => ?_⟩
    rcases mem_snoc.mp member with before | now
    · exact silent rpc before
    · contradiction
  case stopped =>
    intro node listed phase listens
    exact cast.stopped node listed phase
      ((receives (cast.joined _ (List.mem_map_of_mem listed))).mp listens)
  case departed =>
    intro other member
    rcases mem_snoc.mp member with before | now
    · obtain ⟨known, silent⟩ := cast.departed before
      rw [receives known, members]
      exact ⟨List.mem_append_left _ known, silent⟩
    · contradiction
  case announced =>
    intro multicast rpc member
    rcases mem_snoc.mp member with before | now
    · exact cast.announced before
    · contradiction
  case attached =>
    intro me
    rw [mem_snoc, cast.attached, List.map_append, List.mem_append, List.map_singleton,
      List.mem_singleton, Occurrence.attached.injEq]
  case enlisted =>
    intro me coordinates
    rw [List.map_append] at coordinates
    rw [members]
    exact (List.mem_append.mp coordinates).elim
      (fun old => List.mem_append_left _ (cast.enlisted me old)) (List.mem_append_right _)
  case apart =>
    intro me coordinates listed
    rw [List.map_append] at coordinates
    rcases List.mem_append.mp coordinates with old | new
    · exact cast.apart me old listed
    · obtain rfl := List.mem_singleton.mp new
      exact fresh (cast.joined me listed)

/-- A node that joins has announced nothing yet. -/
theorem Cast.join (cast : Cast past cluster) {address : Address}
    (joined : cluster.joinNode? = some (address, after)) :
    Cast (past ++ [(cluster, .joined address)]) after := by
  obtain ⟨hub, join, rfl⟩ := joinNode?_eq_some joined
  have fresh := Hub.fresh_of_join cast.proper.numbered join
  have standing := Hub.standing_join cast.proper.numbered join
  have members := Hub.addresses_of_join join
  have receives {other : Address} (known : other ∈ cluster.hub.members.map Member.address) :
      hub.Listens other ↔ cluster.hub.Listens other :=
    Hub.listens_of_newcomer standing fun same => fresh (same ▸ known)
  constructor
  case proper => exact cast.proper.join join
  case nodes =>
    rw [List.map_append]
    exact List.nodup_append'.mpr ⟨cast.nodes, List.nodup_singleton _,
      List.disjoint_singleton.mpr fun listed => fresh (cast.joined _ listed)⟩
  case joined =>
    intro multicast listed
    rw [List.map_append] at listed
    rw [members]
    exact (List.mem_append.mp listed).elim
      (fun old => List.mem_append_left _ (cast.joined multicast old)) (List.mem_append_right _)
  case joining =>
    intro node listed phase
    rcases List.mem_append.mp listed with old | new
    · obtain ⟨listens, silent⟩ := cast.joining node old phase
      refine ⟨(receives (cast.joined _ (List.mem_map_of_mem old))).mpr listens,
        fun rpc member => ?_⟩
      rcases mem_snoc.mp member with before | now
      · exact silent rpc before
      · contradiction
    · obtain rfl := List.mem_singleton.mp new
      refine ⟨⟨none, (standing address).trans (if_pos rfl)⟩, fun rpc member => ?_⟩
      rcases mem_snoc.mp member with before | now
      · exact fresh (cast.joined _ (cast.announced before))
      · contradiction
  case stopped =>
    intro node listed phase listens
    rcases List.mem_append.mp listed with old | new
    · exact cast.stopped node old phase
        ((receives (cast.joined _ (List.mem_map_of_mem old))).mp listens)
    · obtain rfl := List.mem_singleton.mp new
      contradiction
  case departed =>
    intro other member
    rcases mem_snoc.mp member with before | now
    · obtain ⟨known, silent⟩ := cast.departed before
      rw [receives known, members]
      exact ⟨List.mem_append_left _ known, silent⟩
    · contradiction
  case announced =>
    intro multicast rpc member
    rw [List.map_append]
    rcases mem_snoc.mp member with before | now
    · exact List.mem_append_left _ (cast.announced before)
    · contradiction
  case attached =>
    intro me
    rw [mem_snoc, cast.attached]
    exact or_iff_left nofun
  case enlisted =>
    intro me coordinates
    rw [members]
    exact List.mem_append_left _ (cast.enlisted me coordinates)
  case apart =>
    intro me coordinates listed
    rw [List.map_append] at listed
    rcases List.mem_append.mp listed with old | new
    · exact cast.apart me coordinates old
    · obtain rfl := List.mem_singleton.mp new
      exact fresh (cast.enlisted _ coordinates)

theorem Cast.enter (cast : Cast past cluster) {node : Node} {rpc : Address}
    {hub : Hub StateSource Answerer} (listed : node ∈ cluster.nodes)
    (joining : node.phase = .joining)
    (joinRpc : cluster.hub.joinRpc? node.address (.node node.address) = some (rpc, hub)) :
    Cast (past ++ [(cluster, .entered node.address rpc)]) (cluster.withHub hub) := by
  have receives := Hub.listens_joinRpc joinRpc
  refine cast.onward (cast.proper.joinRpc (cast.joining node listed joining).1 joinRpc)
    (fun address known => ?_) rfl rfl (fun other isNode phase => ?_) (fun other isNode phase => ?_)
    (fun other => (receives other).mp) (fun _ same => by contradiction)
    (fun _ same => by contradiction) (fun _ _ same => by contradiction)
  · exact Hub.addresses_joinRpc joinRpc ▸ known
  · exact ⟨(receives _).mpr (cast.joining other isNode phase).1, ⟨other, isNode, rfl, phase⟩,
      fun _ same => by contradiction⟩
  · exact fun now => cast.stopped other isNode phase ((receives _).mp now)

theorem Cast.announce (cast : Cast past cluster) {node : Node} {rpc : Address}
    {hub : Hub StateSource Answerer} (listed : node ∈ cluster.nodes)
    (announced : cluster.hub.announce node.address rpc = .ok hub) :
    Cast (past ++ [(cluster, .announced node.address rpc)])
      ((cluster.withHub hub).modifyNode node.address fun node =>
        { node with phase := .serving }) := by
  have standing := Hub.standing_announce announced
  have receives (address : Address) : hub.Listens address ↔ cluster.hub.Listens address := by
    rw [Hub.Listens, standing, Hub.Listens]
  refine cast.onward (cast.proper.announce announced) (fun address known => ?_)
    (addresses_withPhase _ _ _) rfl (fun other isNode phase => ?_) (fun other isNode phase => ?_)
    (fun other => (receives other).mp) (fun _ same => by contradiction)
    (fun _ same => by contradiction) ?_
  · rw [← Hub.standing_isSome] at known ⊢
    exact (congrArg Option.isSome (standing address)).trans known
  · rcases mem_nodes_withPhase isNode with ⟨old, -, -, rfl⟩ | ⟨isOld, differ⟩
    · contradiction
    · refine ⟨(receives _).mpr (cast.joining other isOld phase).1, ⟨other, isOld, rfl, phase⟩,
        fun under same => ?_⟩
      exact differ (Occurrence.announced.inj same).1.symm
  · rcases mem_nodes_withPhase isNode with ⟨old, -, -, rfl⟩ | ⟨isOld, -⟩
    · contradiction
    · exact fun now => cast.stopped other isOld phase ((receives _).mp now)
  · intro multicast under same
    rw [← (Occurrence.announced.inj same).1]
    exact List.mem_map_of_mem listed

/-- No joining node leaves. -/
theorem Cast.leave (cast : Cast past cluster) {address : Address}
    (present : address ∈ cluster.listeners) :
    Cast (past ++ [(cluster, .left address)])
      (cluster.withHub (cluster.hub.leave address)) := by
  have receives := Hub.listens_leave cast.proper.distinct address
  have members : (cluster.hub.leave address).members.map Member.address =
      cluster.hub.members.map Member.address := by
    by_cases subscribed : cluster.hub.isSubscriber address = true
    · exact Hub.addresses_leave subscribed
    · rw [Hub.leave, if_neg subscribed]
  refine cast.onward (cast.proper.leave address) (fun other known => members ▸ known) rfl rfl
    (fun node listed phase => ?_) (fun node listed phase listens => ?_)
    (fun other listens => ((receives other).mp listens).2) (fun other now => ?_)
    (fun _ same => by contradiction) (fun _ _ same => by contradiction)
  · have stays : node.address ≠ address := by
      rintro rfl
      rcases List.mem_append.mp present with coordinates | runs
      · exact cast.apart _ coordinates (List.mem_map_of_mem listed)
      · obtain ⟨other, isRunning, same⟩ := List.mem_map.mp runs
        obtain ⟨isNode, serving⟩ := mem_running_iff.mp isRunning
        obtain rfl := List.inj_on_of_nodup_map cast.nodes isNode listed same
        rw [phase] at serving
        contradiction
    exact ⟨(receives _).mpr ⟨stays, (cast.joining node listed phase).1⟩,
      ⟨node, listed, rfl, phase⟩, fun _ same => by contradiction⟩
  · exact cast.stopped node listed phase ((receives _).mp listens).2
  · obtain rfl := Occurrence.left.inj now
    refine ⟨?_, fun listens => ((receives _).mp listens).1 rfl⟩
    rcases List.mem_append.mp present with coordinates | runs
    · exact cast.enlisted _ coordinates
    · obtain ⟨node, isRunning, rfl⟩ := List.mem_map.mp runs
      exact cast.joined _ (List.mem_map_of_mem (mem_running_iff.mp isRunning).1)

theorem Cast.stop (cast : Cast past cluster) {node : Node}
    (gone : cluster.hub.isSubscriber node.address = false) :
    Cast (past ++ [(cluster, .stopped node.address)])
      (cluster.modifyNode node.address fun node => { node with phase := .stopped }) := by
  refine cast.onward cast.proper (fun _ => id) (addresses_withPhase _ _ _) rfl
    (fun other isNode phase => ?_) (fun other isNode phase => ?_) (fun _ => id)
    (fun _ same => by contradiction) (fun _ same => by contradiction)
    (fun _ _ same => by contradiction)
  · rcases mem_nodes_withPhase isNode with ⟨old, -, -, rfl⟩ | ⟨isOld, -⟩
    · contradiction
    · exact ⟨(cast.joining other isOld phase).1, ⟨other, isOld, rfl, phase⟩,
        fun _ same => by contradiction⟩
  · rcases mem_nodes_withPhase isNode with ⟨old, -, same, rfl⟩ | ⟨isOld, -⟩
    · intro receives
      have subscribed := (Hub.isSubscriber_iff cast.proper.distinct).mpr receives
      rw [show cluster.hub.isSubscriber old.address = false from same ▸ gone] at subscribed
      contradiction
    · exact cast.stopped other isOld phase

/-! ## All steps -/

theorem Happens.cast (happens : cluster.Happens occurrence after) (cast : Cast past cluster) :
    Cast (past ++ [(cluster, occurrence)]) after := by
  have quietly (quiet : occurrence.isQuiet = true) : Cast (past ++ [(cluster, occurrence)]) after :=
    cast.unmoved (happens.unmoved quiet) quiet
  cases happens with
  | attach attached => exact cast.attach attached
  | join joined => exact cast.join joined
  | enter listed joining _ joinRpc => exact cast.enter listed joining joinRpc
  | announce listed _ _ announced => exact cast.announce listed announced
  | leave present => exact cast.leave present
  | stop _ gone => exact cast.stop gone
  | «try» | isolate | heal | ask | command | track | work => exact quietly rfl

variable {settings : Settings} {seed : Option (Option (List UInt8))} {accounts : Accounts}

theorem cast_fresh (settings : Settings) (seed : Option (Option (List UInt8)))
    (accounts : Accounts) : Cast [] (fresh settings seed accounts) where
  proper := Hub.proper_empty
  nodes := List.nodup_nil
  joined := nofun
  joining := nofun
  stopped := nofun
  departed := nofun
  announced := nofun
  attached := ⟨nofun, nofun⟩
  enlisted := nofun
  apart := nofun

theorem Course.cast (course : (fresh settings seed accounts).Course past cluster) :
    Cast past cluster := by
  induction course with
  | begin => exact cast_fresh settings seed accounts
  | next _ happens induction => exact happens.cast induction

/-! ## Whole operations -/

/-- What a hub without processes can come to when coordinators and nodes start and stop, addresses
are cut off and connected again and coordinators do what they are asked to do, each in one go. -/
inductive Reached (settings : Settings) (seed : Option (Option (List UInt8)))
    (accounts : Accounts) : Cluster → Prop
  | begin : Reached settings seed accounts (fresh settings seed accounts)
  | startCoordinator {cluster : Cluster} (reached : Reached settings seed accounts cluster) :
      Reached settings seed accounts cluster.startCoordinator.2
  | startNode {cluster : Cluster} (reached : Reached settings seed accounts cluster) :
      Reached settings seed accounts cluster.startNode.2
  | stopCoordinator {cluster : Cluster} {me : Address}
      (reached : Reached settings seed accounts cluster)
      (coordinates : me ∈ cluster.coordinators.map Coordinator.address) :
      Reached settings seed accounts (cluster.leave me)
  | stopNode {cluster : Cluster} {node : Node} (reached : Reached settings seed accounts cluster)
      (isRunning : node ∈ cluster.running) :
      Reached settings seed accounts (cluster.stopNode node.address)
  | isolate {cluster : Cluster} (reached : Reached settings seed accounts cluster)
      (address : Address) : Reached settings seed accounts (cluster.isolate address)
  | heal {cluster : Cluster} (reached : Reached settings seed accounts cluster)
      (address : Address) : Reached settings seed accounts (cluster.heal address)
  | perform {cluster : Cluster} (reached : Reached settings seed accounts cluster) (me : Address)
      (operation : Operation) : Reached settings seed accounts (operation.perform cluster me).2

/-- Whatever a hub comes to, it comes to it in a course of events. -/
theorem Reached.leads (reached : Reached settings seed accounts cluster) :
    (fresh settings seed accounts).Leads cluster := by
  induction reached with
  | begin => exact .refl _
  | startCoordinator _ induction => exact induction.trans (shifts_startCoordinator _).leads
  | startNode _ induction =>
      obtain ⟨past, course⟩ := induction
      exact Leads.trans ⟨past, course⟩ (shifts_startNode course.cast.proper).leads
  | stopCoordinator _ coordinates induction =>
      exact induction.trans (shifts_leave (List.mem_append_left _ coordinates)).leads
  | stopNode _ isRunning induction =>
      obtain ⟨past, course⟩ := induction
      exact Leads.trans ⟨past, course⟩ (leads_stopNode course.cast.proper isRunning)
  | isolate _ address induction => exact induction.trans (Happens.isolate address).leads
  | heal _ address induction => exact induction.trans (Happens.heal address).leads
  | perform _ me operation induction => exact induction.trans (leads_perform _ me operation)

end AuctionHouse.Cluster
