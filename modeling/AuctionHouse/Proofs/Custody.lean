import AuctionHouse.Proofs.Calm

/-!
# Who may hold which states

Whatever order things happen in, a state gets from one node to another in two steps only: a node
that has been told to copy a state fetches it, and puts it in the place of its own.  So if it is
known who may be told to copy whom, then what each node may hold is known from what it may have
fetched, and from the request that it serves.
-/

namespace AuctionHouse

/-- A party of nodes that copy states of each other and of nobody else, and what each of them may
hold and may have fetched. -/
structure Custody where
  /-- The nodes that copy states. -/
  party : List Address
  /-- Who may be told to copy whose state. -/
  follows : Address → Address → Prop
  /-- What a node may hold. -/
  held : Address → Snapshot → Prop
  /-- What a node may have fetched. -/
  carried : Address → Snapshot → Prop
  /-- What is held can travel. -/
  storable : ∀ {address : Address} {snapshot : Snapshot},
    held address snapshot → snapshot.Storable
  /-- What is held may be fetched by whoever may be told to copy it. -/
  handed : ∀ {address peer : Address} {snapshot : Snapshot},
    follows address peer → held peer snapshot → carried address snapshot
  /-- What has been fetched may be held. -/
  restored : ∀ {address : Address} {snapshot : Snapshot},
    carried address snapshot → held address snapshot

namespace Scene

open Cluster

/-- A scene in which nobody is in custody of anything else: the nodes of the party hold, and have
fetched, what they may, nobody is told to copy anything but what they may, and all other nodes are
as they were in the beginning. -/
structure Keeps (scene : Scene) (begun : Cluster) (custody : Custody) : Prop where
  steady : begun.Steady scene.cluster
  outside : ∀ node ∈ scene.cluster.nodes, node.address ∉ custody.party → node ∈ begun.nodes
  inside : ∀ node ∈ scene.cluster.nodes, node.address ∈ custody.party →
    custody.held node.address node.replica.snapshot
  fetched : ∀ address snapshot, scene.fetched address = some snapshot →
    address ∈ custody.party ∧ custody.carried address snapshot
  told : ∀ address ∈ begun.running.map Node.address, ∀ peer ∈ scene.cluster.peersOf address,
    address ∈ custody.party ∧ peer ∈ custody.party ∧ custody.follows address peer

variable {me : Address} {request : Request} {begun : Cluster} {scene after : Scene}
  {custody other : Custody}

/-- What may be held may be held under a wider rule. -/
theorem Keeps.mono (keeps : scene.Keeps begun custody) (party : other.party = custody.party)
    (follows : ∀ address peer, address ∈ custody.party → peer ∈ custody.party →
      custody.follows address peer → other.follows address peer)
    (held : ∀ address snapshot, address ∈ custody.party →
      custody.held address snapshot → other.held address snapshot)
    (carried : ∀ address snapshot, address ∈ custody.party →
      custody.carried address snapshot → other.carried address snapshot) :
    scene.Keeps begun other where
  steady := keeps.steady
  outside := by
    rw [party]
    exact keeps.outside
  inside := by
    rw [party]
    exact fun node listed member => held _ _ member (keeps.inside node listed member)
  fetched := by
    intro address snapshot isHeld
    obtain ⟨member, may⟩ := keeps.fetched address snapshot isHeld
    exact ⟨party ▸ member, carried _ _ member may⟩
  told := by
    intro address isRunning peer isPeer
    obtain ⟨member, member', may⟩ := keeps.told address isRunning peer isPeer
    exact ⟨party ▸ member, party ▸ member', follows _ _ member member' may⟩

/-- What is fetched from a node of the party is what this node may hold. -/
theorem Keeps.of_fetch (keeps : scene.Keeps begun custody) (arranged : begun.Arranged)
    (members : ∀ address ∈ custody.party, address ∈ begun.running.map Node.address)
    {asking peer : Address} {snapshot : Snapshot} (isMember : peer ∈ custody.party)
    (handed : scene.cluster.fetchSnapshot asking peer = .ok snapshot) :
    custody.held peer snapshot := by
  have arranged' := arranged.steady keeps.steady
  have isRunning := members peer isMember
  rw [← keeps.steady.runningAddresses] at isRunning
  obtain ⟨node, runs, rfl⟩ := List.mem_map.mp isRunning
  have holds := keeps.inside node (mem_running_iff.mp runs).1 isMember
  rw [arranged'.fetchSnapshot_eq runs (custody.storable holds)] at handed
  split at handed
  · exact Except.ok.inj handed ▸ holds
  · contradiction

/-- Listeners keep to it. -/
theorem Keeps.listens (keeps : scene.Keeps begun custody) (arranged : begun.Arranged)
    (members : ∀ address ∈ custody.party, address ∈ begun.running.map Node.address)
    (listens : scene.Listens after) : after.Keeps begun custody := by
  have steady := keeps.steady.trans listens.steady
  have told : ∀ address ∈ begun.running.map Node.address, ∀ peer ∈ after.cluster.peersOf address,
      address ∈ custody.party ∧ peer ∈ custody.party ∧ custody.follows address peer :=
    fun address isRunning peer isPeer =>
      keeps.told address isRunning peer (listens.mem_peersOf isPeer)
  cases listens with
  | note listed waiting => exact ⟨steady, keeps.outside, keeps.inside, keeps.fetched, told⟩
  | pass isRunning idle waiting unheard =>
      exact ⟨steady, keeps.outside, keeps.inside, keeps.fetched, told⟩
  | miss isRunning idle waiting names refused =>
      exact ⟨steady, keeps.outside, keeps.inside, keeps.fetched, told⟩
  | @fetch node event rest peer snapshot isRunning idle waiting names handed =>
      refine ⟨steady, keeps.outside, keeps.inside, fun address later isHeld => ?_, told⟩
      by_cases same : address = node.address
      · subst same
        simp only [Function.update_self, Option.some.injEq] at isHeld
        have runs : node.address ∈ begun.running.map Node.address := by
          rw [← keeps.steady.runningAddresses]
          exact List.mem_map_of_mem isRunning
        have isPeer : peer ∈ scene.cluster.peersOf node.address :=
          mem_peersOf_iff.mpr ⟨event, by simp [waiting], names⟩
        obtain ⟨member, isMember, may⟩ := keeps.told _ runs peer isPeer
        have held := keeps.of_fetch arranged members isMember handed
        exact ⟨member, custody.handed may (isHeld ▸ held)⟩
      · simp only [Function.update_of_ne same] at isHeld
        exact keeps.fetched address later isHeld
  | @restore node snapshot listed isHeld =>
      obtain ⟨member, may⟩ := keeps.fetched _ snapshot isHeld
      refine ⟨steady, fun changed isNode strange => ?_, fun changed isNode isMember => ?_,
        fun address later stillHeld => ?_, told⟩
      · obtain ⟨old, wasNode, rfl⟩ := List.mem_map.mp isNode
        split at strange
        · rename_i same
          exact absurd (same ▸ member) strange
        · rename_i differ
          rw [if_neg differ]
          exact keeps.outside old wasNode strange
      · obtain ⟨old, wasNode, rfl⟩ := List.mem_map.mp isNode
        by_cases same : old.address = node.address
        · simp only [if_pos same]
          rw [same]
          exact custody.restored may
        · simp only [if_neg same] at isMember ⊢
          exact keeps.inside old wasNode isMember
      · by_cases same : address = node.address
        · subst same
          simp at stillHeld
        · simp only [Function.update_of_ne same] at stillHeld
          exact keeps.fetched address later stillHeld

theorem Keeps.meanwhile (keeps : scene.Keeps begun custody) (arranged : begun.Arranged)
    (members : ∀ address ∈ custody.party, address ∈ begun.running.map Node.address)
    (meanwhile : scene.Meanwhile after) : after.Keeps begun custody :=
  meanwhile.keep (fun later => later.Keeps begun custody)
    (fun keeps listens => keeps.listens arranged members listens) keeps

/-- What waits when a command has been given waited before, unless it is the command. -/
theorem mem_queueOf_command {cluster : Cluster} {step : Address × Address} {address : Address}
    {event : Event} (waits : event ∈ (carryOut me cluster [step]).hub.queueOf address) :
    event ∈ cluster.hub.queueOf address ∨
      address = step.1 ∧ event = .message me (.command .sync step.2) := by
  obtain ⟨more, carried⟩ := carryOut_cons me cluster step.1 step.2 []
  rw [carried] at waits
  change event ∈ (cluster.commanded me [step]).queueOf address at waits
  rw [commanded, Hub.queueOf_withQueues] at waits
  cases found : cluster.hub.member? address with
  | none => simp [found] at waits
  | some member =>
      obtain ⟨-, named⟩ := Hub.mem_of_member? found
      simp only [found, Option.map_some, Option.getD_some, List.mem_append] at waits
      rcases waits with before | commanded
      · left
        simpa [Hub.queueOf, found] using before
      · right
        rw [Hub.commandsFor] at commanded
        split at commanded
        · simp only [Option.mem_toList, Option.map_eq_some_iff, named] at commanded
          obtain ⟨peer, found, rfl⟩ := commanded
          have same := List.mem_singleton.mp (mem_of_lookup found)
          exact ⟨congrArg Prod.fst same, by rw [← same]⟩
        · contradiction

/-- Neither do commands break it that say what may be said. -/
theorem Keeps.command (keeps : scene.Keeps begun custody) {step : Address × Address}
    (target : step.1 ∈ custody.party) (source : step.2 ∈ custody.party)
    (may : custody.follows step.1 step.2) :
    Keeps { scene with cluster := carryOut me scene.cluster [step] } begun custody := by
  have steady := steady_command scene.cluster me step
  have nodes := nodes_carryOut me scene.cluster [step]
  refine ⟨keeps.steady.trans steady, ?_, ?_, keeps.fetched, fun address isRunning peer told => ?_⟩
  · dsimp only
    rw [nodes]
    exact keeps.outside
  · dsimp only
    rw [nodes]
    exact keeps.inside
  · obtain ⟨event, waits, names⟩ := mem_peersOf_iff.mp told
    rcases mem_queueOf_command waits with before | ⟨rfl, rfl⟩
    · exact keeps.told address isRunning peer (mem_peersOf_iff.mpr ⟨event, before, names⟩)
    · obtain rfl := Option.some.inj names
      exact ⟨target, source, may⟩

/-- Nor does a plan of such commands. -/
theorem Keeps.tells (keeps : scene.Keeps begun custody) (arranged : begun.Arranged)
    (members : ∀ address ∈ custody.party, address ∈ begun.running.map Node.address)
    {plan : List (Address × Address)}
    (may : ∀ step ∈ plan, step.1 ∈ custody.party ∧ step.2 ∈ custody.party ∧
      custody.follows step.1 step.2) (tells : Tells me plan scene after) :
    after.Keeps begun custody :=
  tells.keep (fun later => later.Keeps begun custody)
    (fun keeps listens => keeps.listens arranged members listens)
    (fun step isStep keeps => keeps.command (may step isStep).1 (may step isStep).2.1
      (may step isStep).2.2) keeps

/-- Where nobody copies anything only the nodes matter. -/
theorem Calm.keeps (calm : scene.Calm) (steady : begun.Steady scene.cluster)
    (outside : ∀ node ∈ scene.cluster.nodes, node.address ∉ custody.party → node ∈ begun.nodes)
    (inside : ∀ node ∈ scene.cluster.nodes, node.address ∈ custody.party →
      custody.held node.address node.replica.snapshot) : scene.Keeps begun custody where
  steady := steady
  outside := outside
  inside := inside
  fetched := by
    intro address snapshot isHeld
    rw [calm.fetched] at isHeld
    contradiction
  told := by
    intro address isRunning peer told
    rw [← steady.runningAddresses] at isRunning
    rw [calm.untold address isRunning] at told
    contradiction

/-- When a node of the party serves a request the rule for this node changes with its replica. -/
theorem Keeps.answer (keeps : scene.Keeps begun custody) (arranged : begun.Arranged)
    (members : ∀ address ∈ custody.party, address ∈ begun.running.map Node.address)
    {asked : Address} (isMember : asked ∈ custody.party) (party : other.party = custody.party)
    (follows : ∀ address peer, custody.follows address peer → other.follows address peer)
    (carried : ∀ address snapshot,
      custody.carried address snapshot → other.carried address snapshot)
    (serves : ∀ replica : Replica, replica.probeLimit = begun.settings.probeLimit →
      custody.held asked replica.snapshot → other.held asked (replica.serve request).2.snapshot)
    (others : ∀ address snapshot, address ≠ asked →
      custody.held address snapshot → other.held address snapshot) :
    Keeps { scene with cluster := (scene.cluster.answer request (.node asked)).2 } begun other := by
  have arranged' := arranged.steady keeps.steady
  have limit : ∀ node ∈ scene.cluster.nodes,
      node.replica.probeLimit = begun.settings.probeLimit :=
    keeps.steady.limited _ arranged.configured
  have isRunning := members asked isMember
  rw [← keeps.steady.runningAddresses] at isRunning
  obtain ⟨node, runs, rfl⟩ := List.mem_map.mp isRunning
  have answered := answer_eq request arranged'.nodes (mem_running_iff.mp runs).1
  have steady := steady_answer scene.cluster request (.node node.address)
  rw [answered] at steady
  rw [answered]
  refine ⟨keeps.steady.trans steady, fun changed isNode strange => ?_,
    fun changed isNode inside => ?_, fun address snapshot isHeld => ?_,
    fun address isRunning peer told => ?_⟩
  · obtain ⟨old, wasNode, rfl⟩ := List.mem_map.mp isNode
    rw [party] at strange
    have differ : old.address ≠ node.address := fun same => strange (same ▸ isMember)
    simp only [servedAt, List.mem_singleton, if_neg differ]
    exact keeps.outside old wasNode strange
  · obtain ⟨old, wasNode, rfl⟩ := List.mem_map.mp isNode
    rw [party] at inside
    have holds := keeps.inside old wasNode inside
    by_cases same : old.address = node.address
    · simp only [servedAt, List.mem_singleton, if_pos same]
      rw [same] at holds ⊢
      exact serves old.replica (limit old wasNode) holds
    · simp only [servedAt, List.mem_singleton, if_neg same]
      exact others _ _ same holds
  · obtain ⟨member, may⟩ := keeps.fetched address snapshot isHeld
    exact ⟨party ▸ member, carried _ _ may⟩
  · obtain ⟨member, member', may⟩ := keeps.told address isRunning peer told
    exact ⟨party ▸ member, party ▸ member', follows _ _ may⟩

/-- When nodes of the party are asked one after the other, in any order, the rules change with those
that have yet to be asked. -/
theorem FansOut.keeps (arranged : begun.Arranged) (rule : List Address → Custody)
    {party : List Address} (members : ∀ waiting, ∀ address ∈ (rule waiting).party,
      address ∈ begun.running.map Node.address)
    (serves : ∀ {scene : Scene} {waiting rest : List Address} {address : Address},
      waiting.Perm (address :: rest) → address ∈ party → address ∉ rest →
        scene.Keeps begun (rule waiting) →
          Keeps { scene with cluster := (scene.cluster.answer request (.node address)).2 } begun
            (rule rest))
    {asked : List (Address × Answerer)} {log : List Service} {waiting : List Address}
    (once : waiting.Nodup) (within : waiting ⊆ party)
    (isAsked : (asked.map Prod.snd).Perm (waiting.map Answerer.node))
    (keeps : scene.Keeps begun (rule waiting))
    (fansOut : FansOut request scene asked log after) : after.Keeps begun (rule []) := by
  induction fansOut generalizing waiting with
  | ended =>
      obtain rfl := List.map_eq_nil_iff.mp isAsked.symm.eq_nil
      exact keeps
  | listen listens _ induction =>
      exact induction once within isAsked (keeps.listens arranged (members waiting) listens)
  | @serve scene after entry asked others log picked _ induction =>
      have reordered := isAsked.symm.trans (picked.map Prod.snd)
      obtain ⟨address, isWaiting, same⟩ :=
        List.mem_map.mp (reordered.mem_iff.mpr List.mem_cons_self)
      obtain ⟨front, back, rfl⟩ := List.append_of_mem isWaiting
      have moved : (front ++ address :: back).Perm (address :: (front ++ back)) :=
        List.perm_middle
      have remain := reordered.symm.trans (moved.map Answerer.node)
      rw [List.map_cons, List.map_cons, same] at remain
      obtain ⟨fresh, once'⟩ := List.nodup_cons.mp (moved.nodup_iff.mp once)
      have within' : front ++ back ⊆ party := fun other isOther =>
        within (moved.mem_iff.mpr (List.mem_cons_of_mem _ isOther))
      refine induction once' within' remain.cons_inv ?_
      have served := serves moved (within isWaiting) fresh keeps
      rw [same] at served
      exact served

end Scene

/-! ## What coordinators know -/

namespace Cluster

/-- Whatever pair of members a coordinator has noted or has yet to read of, they are the two
addresses of one node. -/
structure Trusted (cluster : Cluster) (me : Address) : Prop where
  noted : cluster.Truthful me
  announced : ∀ sender, ∀ rpc ∈ cluster.hub.rpcView.members, ∀ multicast,
    Event.message sender (.announce rpc multicast) ∈ cluster.hub.queueOf me →
      cluster.hub.nodeBehind? rpc = some multicast

/-- What a coordinator has noted after an event it had noted before, unless the event says so. -/
theorem find?_bookAfter {book : AddressBook} {event : Event} {rpc multicast : Address}
    (known : (bookAfter book event).find? rpc = some multicast) :
    book.find? rpc = some multicast ∨
      ∃ sender, event = .message sender (.announce rpc multicast) := by
  cases event with
  | multicastView view => exact .inl known
  | rpcView view =>
      rw [bookAfter, AddressBook.find?_restrict] at known
      split at known
      · exact .inl known
      · contradiction
  | message sender body =>
      cases body with
      | command order peer => exact .inl known
      | announce other address =>
          rw [bookAfter, AddressBook.find?_insert] at known
          split at known
          · rename_i same
            obtain rfl := Option.some.inj known
            exact .inr ⟨sender, by rw [same]⟩
          · exact .inl known

variable {me : Address} {cluster after : Cluster}

/-- A coordinator knows what it has read. -/
theorem Trusted.of_steady (trusted : cluster.Trusted me) (steady : cluster.Steady after)
    (queue : ∀ event ∈ after.hub.queueOf me,
      event ∈ cluster.hub.queueOf me ∨ ∃ peer, event.peer? = some peer)
    (book : ∀ rpc multicast, (after.bookOf me).find? rpc = some multicast →
      (cluster.bookOf me).find? rpc = some multicast ∨
        ∃ sender, Event.message sender (.announce rpc multicast) ∈ cluster.hub.queueOf me) :
    after.Trusted me where
  noted := by
    intro rpc listed multicast known
    rw [steady.rpcView] at listed
    rw [steady.nodeBehind?]
    rcases book rpc multicast known with before | ⟨sender, waits⟩
    · exact trusted.noted rpc listed multicast before
    · exact trusted.announced sender rpc listed multicast waits
  announced := by
    intro sender rpc listed multicast waits
    rw [steady.rpcView] at listed
    rw [steady.nodeBehind?]
    rcases queue _ waits with before | ⟨peer, names⟩
    · exact trusted.announced sender rpc listed multicast before
    · contradiction

/-- Answers tell a coordinator nothing. -/
theorem Trusted.answer (trusted : cluster.Trusted me) (request : Request) (answerer : Answerer) :
    (cluster.answer request answerer).2.Trusted me := by
  obtain ⟨hub, -, coordinators⟩ := cluster.answer_frame request answerer
  refine trusted.of_steady (steady_answer _ _ _) (fun event waits => .inl (hub ▸ waits))
    fun rpc multicast known => .inl ?_
  rwa [bookOf, coordinator?, coordinators] at known

end Cluster

namespace Scene

open Cluster

variable {me : Address} {request : Request} {scene after : Scene}

theorem Listens.trusted (listens : scene.Listens after) (trusted : scene.cluster.Trusted me) :
    after.cluster.Trusted me := by
  refine trusted.of_steady listens.steady ?_ ?_
  · intro event waits
    left
    cases listens with
    | note listed waiting => exact Hub.mem_of_dequeue _ waits
    | pass isRunning idle waiting unheard => exact Hub.mem_of_dequeue _ waits
    | fetch isRunning idle waiting told handed => exact Hub.mem_of_dequeue _ waits
    | miss isRunning idle waiting told refused => exact Hub.mem_of_dequeue _ waits
    | restore listed held => exact waits
  · intro rpc multicast known
    cases listens with
    | @note coordinator event rest listed waiting =>
        have found : ((scene.cluster.withHub
            (scene.cluster.hub.dequeue coordinator.address)).modifyCoordinator coordinator.address
              fun noted => { noted with book := bookAfter noted.book event }).coordinator? me =
            (scene.cluster.coordinator? me).map fun noted =>
              if noted.address = coordinator.address then
                { noted with book := bookAfter noted.book event }
              else noted := by
          refine find?_map_of_named (fun noted => ?_) scene.cluster.coordinators me
          split
          · rfl
          · rfl
        rw [bookOf, found] at known
        cases present : scene.cluster.coordinator? me with
        | none => simp [present] at known
        | some noted =>
            have named : noted.address = me := by simpa using List.find?_some present
            have before : scene.cluster.bookOf me = noted.book := by simp [bookOf, present]
            simp only [present, Option.map_some, Option.getD_some, named] at known
            rw [before]
            split at known
            · rename_i same
              rcases find?_bookAfter known with old | ⟨sender, rfl⟩
              · exact .inl old
              · exact .inr ⟨sender, by rw [same, waiting]; exact List.mem_cons_self⟩
            · exact .inl known
    | pass isRunning idle waiting unheard => exact .inl known
    | fetch isRunning idle waiting told handed => exact .inl known
    | miss isRunning idle waiting told refused => exact .inl known
    | restore listed held => exact .inl known

theorem trusted_command {cluster : Cluster} (trusted : cluster.Trusted me) (teller : Address)
    (step : Address × Address) : (carryOut teller cluster [step]).Trusted me := by
  refine trusted.of_steady (steady_command _ _ _) (fun event waits => ?_)
    fun rpc multicast known => .inl ?_
  · rcases mem_queueOf_command waits with before | ⟨-, rfl⟩
    · exact .inl before
    · exact .inr ⟨step.2, rfl⟩
  · obtain ⟨more, carried⟩ := carryOut_cons teller cluster step.1 step.2 []
    rw [carried] at known
    exact known

/-- What a coordinator knows stays true while a request goes around. -/
theorem FansOut.trusted {asked : List (Address × Answerer)} {log : List Service}
    (trusted : scene.cluster.Trusted me) (fansOut : FansOut request scene asked log after) :
    after.cluster.Trusted me :=
  (fansOut.keep (fun later => later.cluster.Trusted me)
    (fun trusted listens => listens.trusted trusted)
    (fun _ _ trusted => trusted.answer _ _) trusted).1

theorem Prepares.trusted {operation : Operation} (trusted : scene.cluster.Trusted me)
    (prepares : Prepares me scene operation after) : after.cluster.Trusted me :=
  prepares.keep (fun later => later.cluster.Trusted me)
    (fun trusted listens => listens.trusted trusted) (fun _ _ trusted => trusted.answer _ _)
    (fun _ _ step _ trusted => trusted_command trusted me step) trusted

end Scene

end AuctionHouse
