import AuctionHouse.Proofs.Cast

/-!
# What a coordinator knows about addresses

A coordinator notes the address pairs that are announced and forgets those whose RPC address is in a
view no more.  Announcements and views reach it in the order in which they were sent, so the view
with a new member comes before the announcement, and every later view has the member until it
leaves.  Hence, whatever happens in whatever order, a coordinator that has read what has arrived
knows exactly the pairs of the running nodes whose announcements it could hear.
-/

namespace AuctionHouse.Cluster

variable {cluster after : Cluster} {past later : List (Cluster × Occurrence)}
  {occurrence : Occurrence} {me multicast rpc : Address}

/-! ## What has been heard -/

/-- A coordinator heard an announcement: it had attached before, and at the moment of the
announcement neither of the two was cut off. -/
def Heard (past : List (Cluster × Occurrence)) (me multicast rpc : Address) : Prop :=
  ∃ earlier before later, past = earlier ++ (before, .announced multicast rpc) :: later ∧
    .attached me ∈ earlier.map Prod.snd ∧
    before.hub.isReachable multicast = true ∧ before.hub.isReachable me = true

theorem Heard.announced (heard : Heard past me multicast rpc) :
    .announced multicast rpc ∈ past.map Prod.snd := by
  obtain ⟨earlier, before, later, rfl, -⟩ := heard
  simp

theorem Heard.attached (heard : Heard past me multicast rpc) :
    .attached me ∈ past.map Prod.snd := by
  obtain ⟨earlier, before, later, rfl, attached, -⟩ := heard
  rw [List.map_append]
  exact List.mem_append_left _ attached

theorem Heard.append (heard : Heard past me multicast rpc) (later : List (Cluster × Occurrence)) :
    Heard (past ++ later) me multicast rpc := by
  obtain ⟨earlier, before, rest, rfl, facts⟩ := heard
  exact ⟨earlier, before, rest ++ later, by simp, facts⟩

/-- What is heard when one thing more has happened. -/
theorem heard_snoc :
    Heard (past ++ [(cluster, occurrence)]) me multicast rpc ↔
      Heard past me multicast rpc ∨
        occurrence = .announced multicast rpc ∧ .attached me ∈ past.map Prod.snd ∧
          cluster.hub.isReachable multicast = true ∧ cluster.hub.isReachable me = true := by
  constructor
  · rintro ⟨earlier, before, later, split, attached, reachable⟩
    rcases List.eq_nil_or_concat later with rfl | ⟨rest, last, rfl⟩
    · obtain ⟨rfl, same⟩ := List.append_inj' split rfl
      obtain ⟨rfl, rfl⟩ := Prod.mk.inj (List.singleton_inj.mp same)
      exact .inr ⟨rfl, attached, reachable⟩
    · rw [List.concat_eq_append, ← List.cons_append, ← List.append_assoc] at split
      obtain ⟨rfl, -⟩ := List.append_inj' split rfl
      exact .inl ⟨earlier, before, rest, rfl, attached, reachable⟩
  · rintro (heard | ⟨rfl, attached, reachable⟩)
    · exact heard.append _
    · exact ⟨past, cluster, [], rfl, attached, reachable⟩

theorem heard_of_other (other : occurrence ≠ .announced multicast rpc) :
    Heard (past ++ [(cluster, occurrence)]) me multicast rpc ↔ Heard past me multicast rpc := by
  rw [heard_snoc]
  exact or_iff_left fun new => other new.1

/-! ## What is known -/

/-- What coordinators know are the pairs in use that they have heard of. -/
def Told (past : List (Cluster × Occurrence)) (cluster : Cluster) : Prop :=
  ∀ me ∈ cluster.coordinators.map Coordinator.address, cluster.hub.Listens me →
    ∀ rpc multicast, (cluster.outlook me).find? rpc = some multicast ↔
      cluster.hub.rpcAddress? multicast = some rpc ∧ Heard past me multicast rpc

/-- Nobody hears anything but announcements. -/
theorem Told.silently (told : Told past after)
    (noAnnouncing : ∀ multicast rpc, occurrence ≠ .announced multicast rpc) :
    Told (past ++ [(cluster, occurrence)]) after := by
  intro me coordinates receives rpc multicast
  rw [heard_of_other (noAnnouncing multicast rpc)]
  exact told me coordinates receives rpc multicast

theorem Told.unmoved (told : Told past cluster) (cast : Cast past cluster)
    (unmoved : cluster.Unmoved after) : Told past after := by
  intro me coordinates receives rpc multicast
  rw [unmoved.coordinators] at coordinates
  rw [unmoved.outlook me coordinates (cast.apart me coordinates),
    Hub.rpcAddress?_congr unmoved.standing]
  exact told me coordinates ((unmoved.listens_iff me).mp receives) rpc multicast

theorem outlook_withHub (cluster : Cluster) (hub : Hub StateSource Answerer) (me : Address) :
    (cluster.withHub hub).outlook me = hub.noted me (cluster.bookOf me) := rfl

theorem bookOf_newcomer (cluster : Cluster) (hub : Hub StateSource Answerer)
    {address : Address} (fresh : address ∉ cluster.coordinators.map Coordinator.address)
    (me : Address) :
    bookOf { cluster with
        hub
        coordinators :=
          cluster.coordinators ++ [{ address, book := .empty, sessions := .empty }] } me =
      if me = address then .empty else cluster.bookOf me := by
  have found := find?_append_of_fresh (⟨address, .empty, .empty⟩ : Coordinator) fresh me
  rw [bookOf, coordinator?, found, bookOf]
  split
  · rfl
  · rfl

/-- A coordinator that attaches knows nothing yet, and has heard nothing. -/
theorem Told.attach (told : Told past cluster) (cast : Cast past cluster) {address : Address}
    {hub : Hub StateSource Answerer} (attached : cluster.hub.attach? = some (address, hub)) :
    Told past
      { cluster with
        hub
        coordinators :=
          cluster.coordinators ++ [{ address, book := .empty, sessions := .empty }] } := by
  have fresh := Hub.fresh_of_attach cast.proper.numbered attached
  have standing := Hub.standing_attach cast.proper.numbered attached
  have isNew : address ∉ cluster.coordinators.map Coordinator.address := fun old =>
    fresh (cast.enlisted address old)
  intro me coordinates receives rpc multicast
  rw [outlook, Hub.noted_attach cast.proper.numbered attached, bookOf_newcomer cluster hub isNew]
  by_cases same : me = address
  · subst same
    rw [if_pos rfl, if_pos rfl, AddressBook.find?_restrict, AddressBook.find?_empty, ite_self]
    constructor
    · intro known
      contradiction
    · rintro ⟨-, heard⟩
      exact absurd (cast.attached.mp heard.attached) isNew
  · have old : me ∈ cluster.coordinators.map Coordinator.address := by
      rw [List.map_append] at coordinates
      exact (List.mem_append.mp coordinates).resolve_right (by simpa using same)
    have received := (Hub.listens_of_newcomer standing same).mp receives
    rw [if_neg same, if_neg same, Hub.rpcAddress?_of_newcomer fresh standing]
    exact told me old received rpc multicast

theorem Told.join (told : Told past cluster) (cast : Cast past cluster) {address : Address}
    (joined : cluster.joinNode? = some (address, after)) : Told past after := by
  obtain ⟨hub, join, rfl⟩ := joinNode?_eq_some joined
  have fresh := Hub.fresh_of_join cast.proper.numbered join
  have standing := Hub.standing_join cast.proper.numbered join
  intro me coordinates receives rpc multicast
  have differ : me ≠ address := fun same => fresh (same ▸ cast.enlisted me coordinates)
  have received := (Hub.listens_of_newcomer standing differ).mp receives
  rw [outlook, Hub.noted_join cast.proper.numbered join received,
    Hub.rpcAddress?_of_newcomer fresh standing]
  exact told me coordinates received rpc multicast

/-- The view with the new member does not make anything known, and keeps everything that is. -/
theorem Told.enter (told : Told past cluster) (cast : Cast past cluster) {node : Node}
    {own : Address} {hub : Hub StateSource Answerer} (listed : node ∈ cluster.nodes)
    (joining : node.phase = .joining)
    (joinRpc : cluster.hub.joinRpc? node.address (.node node.address) = some (own, hub)) :
    Told past (cluster.withHub hub) := by
  intro me coordinates receives rpc multicast
  have received := (Hub.listens_joinRpc joinRpc me).mp receives
  have known := told me coordinates received rpc multicast
  -- Nobody has heard of the node yet, so it is not the one that is asked about.
  have still (heard : Heard past me multicast rpc) :
      hub.rpcAddress? multicast = cluster.hub.rpcAddress? multicast := by
    have differ : multicast ≠ node.address := by
      rintro rfl
      exact (cast.joining node listed joining).2 rpc heard.announced
    rw [Hub.rpcAddress?_eq, Hub.standing_joinRpc joinRpc, if_neg differ, Hub.rpcAddress?_eq]
  rw [outlook_withHub, Hub.noted_joinRpc joinRpc received, AddressBook.find?_restrict]
  constructor
  · intro found
    split at found
    · obtain ⟨answers, heard⟩ := known.mp found
      exact ⟨(still heard).trans answers, heard⟩
    · contradiction
  · rintro ⟨answers, heard⟩
    have before : cluster.hub.rpcAddress? multicast = some rpc := (still heard).symm.trans answers
    have inView := (cast.proper.of_rpcAddress? before).2
    rw [if_pos ((View.contains_joined _ _ _).mpr (.inl (decide_eq_true inView)))]
    exact known.mpr ⟨before, heard⟩

/-- An announcement is noted where it is heard, and nothing else is. -/
theorem Told.announce (told : Told past cluster) (cast : Cast past cluster) {node : Node}
    {own : Address} {hub : Hub StateSource Answerer} (listed : node ∈ cluster.nodes)
    (answers : cluster.hub.rpcAddress? node.address = some own)
    (announced : cluster.hub.announce node.address own = .ok hub) :
    Told (past ++ [(cluster, .announced node.address own)]) (cluster.withHub hub) := by
  have standing := Hub.standing_announce announced
  intro me coordinates receives rpc multicast
  have received : cluster.hub.Listens me := by
    rwa [hub_withHub, Hub.Listens, standing] at receives
  have differ : me ≠ node.address := by
    rintro rfl
    exact cast.apart _ coordinates (List.mem_map_of_mem listed)
  have known := told me coordinates received rpc multicast
  rw [outlook_withHub, hub_withHub, Hub.noted_announce announced received differ, heard_snoc,
    Hub.rpcAddress?_congr standing]
  by_cases reachable :
      cluster.hub.isReachable node.address = true ∧ cluster.hub.isReachable me = true
  case neg =>
    rw [if_neg reachable, or_iff_left]
    · exact known
    · rintro ⟨same, -, both⟩
      rw [← (Occurrence.announced.inj same).1] at both
      exact reachable both
  rw [if_pos reachable, AddressBook.find?_insert]
  split
  case isTrue same =>
    subst same
    constructor
    · intro found
      obtain rfl := Option.some.inj found
      exact ⟨answers, .inr ⟨rfl, cast.attached.mpr coordinates, reachable⟩⟩
    · rintro ⟨isOwn, -⟩
      rw [cast.proper.singly isOwn answers]
  case isFalse other =>
    rw [or_iff_left fun now => other (Occurrence.announced.inj now.1).2.symm]
    exact known

/-- Exactly the pair of the process that has left is forgotten. -/
theorem Told.leave (told : Told past cluster) (cast : Cast past cluster) (address : Address) :
    Told past (cluster.withHub (cluster.hub.leave address)) := by
  intro me coordinates receives rpc multicast
  obtain ⟨differ, received⟩ := (Hub.listens_leave cast.proper.distinct address me).mp receives
  have known := told me coordinates received rpc multicast
  rw [outlook_withHub, hub_withHub]
  by_cases subscribed : cluster.hub.isSubscriber address = true
  case neg =>
    rw [Hub.leave, if_neg subscribed]
    exact known
  rw [Hub.noted_leave subscribed received differ, Hub.rpcAddress?_leave subscribed]
  cases own : cluster.hub.rpcAddress? address with
  | none =>
      refine known.trans ?_
      split
      · rename_i same
        rw [same, own]
      · exact Iff.rfl
  | some gone =>
      simp only [AddressBook.find?_restrict]
      constructor
      · intro found
        split at found
        · rename_i stays
          obtain ⟨answers, heard⟩ := known.mp found
          rw [if_neg]
          · exact ⟨answers, heard⟩
          · rintro rfl
            refine ((View.contains_left _ _ _).mp stays).2 ?_
            exact Option.some.inj (answers.symm.trans own)
        · contradiction
      · rintro ⟨answers, heard⟩
        split at answers
        · contradiction
        · rename_i other
          have inView := (cast.proper.of_rpcAddress? answers).2
          have stays : rpc ≠ gone := fun same =>
            other (cast.proper.singly answers (same ▸ own))
          rw [if_pos ((View.contains_left _ _ _).mpr ⟨decide_eq_true inView, stays⟩)]
          exact known.mpr ⟨answers, heard⟩

/-! ## What is known after all steps -/

theorem Happens.told (happens : cluster.Happens occurrence after) (cast : Cast past cluster)
    (told : Told past cluster) : Told (past ++ [(cluster, occurrence)]) after := by
  have quietly (quiet : occurrence.isQuiet = true) : Told (past ++ [(cluster, occurrence)]) after :=
    (told.unmoved cast (happens.unmoved quiet)).silently fun _ _ =>
      Occurrence.ne_of_isQuiet quiet rfl
  cases happens with
  | attach attached => exact (told.attach cast attached).silently nofun
  | join joined => exact (told.join cast joined).silently nofun
  | enter listed joining _ joinRpc =>
      exact (told.enter cast listed joining joinRpc).silently nofun
  | announce listed _ answers announced => exact told.announce cast listed answers announced
  | leave _ => exact (told.leave cast _).silently nofun
  | stop _ _ => exact Told.silently told nofun
  | «try» | isolate | heal | ask | command | track | work => exact quietly rfl

variable {settings : Settings} {seed : Option (Option (List UInt8))} {accounts : Accounts}

theorem Course.told (course : (fresh settings seed accounts).Course past cluster) :
    Told past cluster := by
  induction course with
  | begin => exact nofun
  | next course happens induction => exact happens.told course.cast induction

/-- Whoever has an RPC address and has announced it is running. -/
theorem Cast.running (cast : Cast past cluster)
    (answers : cluster.hub.rpcAddress? multicast = some rpc)
    (heard : Heard past me multicast rpc) : ∃ node ∈ cluster.running, node.address = multicast := by
  obtain ⟨node, listed, rfl⟩ := List.mem_map.mp (cast.announced heard.announced)
  refine ⟨node, mem_running_iff.mpr ⟨listed, ?_⟩, rfl⟩
  cases phase : node.phase with
  | joining => exact absurd heard.announced ((cast.joining node listed phase).2 rpc)
  | serving => rfl
  | stopped =>
      exact absurd (cast.proper.of_rpcAddress? answers).1 (cast.stopped node listed phase)

/-- A coordinator that has read what has arrived knows the pairs that it has heard of and whose
RPC address is in use. -/
theorem Course.correlate?_eq_some_iff (course : (fresh settings seed accounts).Course past cluster)
    (coordinates : me ∈ cluster.coordinators.map Coordinator.address)
    (present : cluster.hub.isSubscriber me = true) (read : cluster.hub.queueOf me = []) :
    cluster.correlate? me rpc = some multicast ↔
      cluster.hub.rpcAddress? multicast = some rpc ∧ Heard past me multicast rpc := by
  have cast := course.cast
  have known : cluster.outlook me = cluster.bookOf me := by
    rw [outlook, Hub.noted, read]
    rfl
  have listens := (Hub.isSubscriber_iff cast.proper.distinct).mp present
  rw [correlate?, ← known]
  exact course.told me coordinates listens rpc multicast

/-- A coordinator that has read what has arrived knows the addresses of exactly those running nodes
whose announcement it heard.  So it knows no node under two RPC addresses and nobody who has left,
and it goes on knowing a node as long as that has its RPC address, whatever happens. -/
theorem Course.correlation_exact (course : (fresh settings seed accounts).Course past cluster)
    (coordinates : me ∈ cluster.coordinators.map Coordinator.address)
    (present : cluster.hub.isSubscriber me = true) (read : cluster.hub.queueOf me = []) :
    (∀ rpc multicast, cluster.correlate? me rpc = some multicast ↔
      ∃ node ∈ cluster.running, node.address = multicast ∧
        cluster.hub.rpcAddress? multicast = some rpc ∧ Heard past me multicast rpc) ∧
    (∀ left right multicast, cluster.correlate? me left = some multicast →
      cluster.correlate? me right = some multicast → left = right) ∧
    (∀ rpc multicast, cluster.correlate? me rpc = some multicast →
      .left multicast ∉ past.map Prod.snd ∧ cluster.hub.isSubscriber multicast = true ∧
        rpc ∈ cluster.hub.rpcView.members) ∧
    ∀ rpc multicast, cluster.correlate? me rpc = some multicast →
      ∀ later after, cluster.Course later after → after.hub.isSubscriber me = true →
        after.hub.queueOf me = [] → after.hub.rpcAddress? multicast = some rpc →
          after.correlate? me rpc = some multicast := by
  have cast := course.cast
  have known {rpc multicast : Address} : cluster.correlate? me rpc = some multicast ↔
      cluster.hub.rpcAddress? multicast = some rpc ∧ Heard past me multicast rpc :=
    course.correlate?_eq_some_iff coordinates present read
  refine ⟨fun rpc multicast => ?exact, fun left right multicast isLeft isRight => ?injective,
    fun rpc multicast found => ?current, fun rpc multicast found later after onward => ?lasting⟩
  case exact =>
    rw [known]
    constructor
    · rintro ⟨answers, heard⟩
      obtain ⟨node, isRunning, named⟩ := cast.running answers heard
      exact ⟨node, isRunning, named, answers, heard⟩
    · rintro ⟨-, -, -, facts⟩
      exact facts
  case injective =>
    exact Option.some.inj ((known.mp isLeft).1.symm.trans (known.mp isRight).1)
  case current =>
    obtain ⟨listens, listed⟩ := cast.proper.of_rpcAddress? (known.mp found).1
    exact ⟨fun left => (cast.departed left).2 listens,
      (Hub.isSubscriber_iff cast.proper.distinct).mpr listens, listed⟩
  case lasting =>
    intro present' read' answers
    have course' := course.append onward
    have attached : .attached me ∈ (past ++ later).map Prod.snd := by
      rw [List.map_append]
      exact List.mem_append_left _ (cast.attached.mpr coordinates)
    have coordinates' := course'.cast.attached.mp attached
    refine (course'.correlate?_eq_some_iff coordinates' present' read').mpr ⟨answers, ?_⟩
    exact (known.mp found).2.append later

/-- A coordinator and two nodes on a hub. -/
def staffed : Cluster :=
  (fresh .standard none (.table [])).startCoordinator.2.startNode.2.startNode.2

/-- When the second node stops, the first one stays known. -/
theorem Course.correlation_exact_staffed :
    ∃ past, (fresh .standard none (.table [])).Course past staffed ∧
      Heard past ⟨.multicast, 1⟩ ⟨.multicast, 2⟩ ⟨.rpc, 3⟩ ∧
      (staffed.stopNode ⟨.multicast, 4⟩).correlate? ⟨.multicast, 1⟩ ⟨.rpc, 3⟩ =
        some ⟨.multicast, 2⟩ := by
  have reached : Reached .standard none (.table []) staffed :=
    .startNode (.startNode (.startCoordinator .begin))
  obtain ⟨past, course⟩ := reached.leads
  have coordinates : ⟨.multicast, 1⟩ ∈ staffed.coordinators.map Coordinator.address := by
    decide +kernel
  have known : staffed.correlate? ⟨.multicast, 1⟩ ⟨.rpc, 3⟩ = some ⟨.multicast, 2⟩ := by
    decide +kernel
  have running : ⟨.multicast, 4⟩ ∈ staffed.running.map Node.address := by
    decide +kernel
  obtain ⟨node, isRunning, named⟩ := List.mem_map.mp running
  obtain ⟨later, onward⟩ := leads_stopNode course.cast.proper isRunning
  rw [named] at onward
  obtain ⟨exactly, -, -, lasting⟩ :=
    course.correlation_exact coordinates (by decide +kernel) (by decide +kernel)
  obtain ⟨-, -, -, -, heard⟩ := (exactly _ _).mp known
  refine ⟨past, course, heard, lasting _ _ known later _ onward ?_ ?_ ?_⟩
  · decide +kernel
  · decide +kernel
  · decide +kernel

end AuctionHouse.Cluster
