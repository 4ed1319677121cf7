import AuctionHouse.Proofs.Engaged
import AuctionHouse.Proofs.Starting
import AuctionHouse.Proofs.Waiting

/-!
# Starting with retries

A node that cannot get a state tries again until it can.  Each attempt asks the oldest other member
of the view as it is then, and an attempt that fails leaves no trace, so what the node holds in the
end depends on the last attempt only: it is the state that this member held, or, where there was no
other member, the state that every node begins with.  Until then the node has no RPC address and
nobody's requests reach it.
-/

namespace AuctionHouse

/-- What a member of the multicast group would hand over, if it could be reached. -/
def Cluster.held? (cluster : Cluster) (giving : Address) : Option Snapshot :=
  ((cluster.hub.members.find? fun member =>
    member.isSubscribed && decide (member.address = giving)).bind Member.source).bind fun
    | .node => (cluster.node? giving).map fun node => node.replica.snapshot
    | .fixed snapshot => some snapshot
    | .silent => none

namespace Cluster

variable {cluster after : Cluster} {me : Address} {node : Node}

/-- What is fetched from a member is what it holds, as the wire carries it. -/
theorem held_of_fetch {asking giving : Address} {snapshot : Snapshot}
    (fetched : cluster.fetchSnapshot asking giving = .ok snapshot) :
    ∃ held, cluster.held? giving = some held ∧ (held.Storable → snapshot = held) := by
  have carried {held : Snapshot} (sent : (Wire.transmit held).mapError Fault.wire = .ok snapshot)
      (storable : held.Storable) : snapshot = held := by
    rw [Wire.transmit_of_survives (Wire.survives_snapshot storable)] at sent
    exact (Except.ok.inj sent).symm
  rw [fetchSnapshot, Hub.sourceOf_eq] at fetched
  rw [held?]
  cases handed : (cluster.hub.members.find? fun member =>
      member.isSubscribed && decide (member.address = giving)).bind Member.source with
  | none => simp [handed] at fetched
  | some source =>
      by_cases connected :
          (cluster.hub.isReachable asking && cluster.hub.isReachable giving) = true
      · simp only [if_pos connected, handed, Option.elim_some] at fetched
        cases source with
        | silent => contradiction
        | fixed held => exact ⟨held, rfl, carried fetched⟩
        | node =>
            cases found : cluster.node? giving with
            | none => simp [found] at fetched
            | some node =>
                simp only [found] at fetched
                exact ⟨node.replica.snapshot, by simp, carried fetched⟩
      · simp [connected] at fetched

/-! ## Attempts -/

theorem node?_modifyNode (found : cluster.node? me = some node) {change : Node → Node}
    (named : ∀ node, (change node).address = node.address) :
    (cluster.modifyNode me change).node? me = some (change node) := by
  have kept (other : Node) :
      (if other.address = me then change other else other).address = other.address := by
    split
    · exact named other
    · rfl
  have changed : (cluster.modifyNode me change).node? me = (cluster.node? me).map fun node =>
      if node.address = me then change node else node :=
    find?_map_of_named kept cluster.nodes me
  rw [changed, found, Option.map_some, if_pos (mem_nodes_of_node? found).2]

/-- What a node gets that tries to get a state: that of the oldest other member or, if there is none,
the one that every node begins with. -/
structure Gives (tried : Cluster) (me : Address) (settings : Settings) (given : Replica) : Prop where
  anew : tried.hub.multicastView.oldestOther? me = none → given = .first settings tried.seed
  taken : ∀ peer, tried.hub.multicastView.oldestOther? me = some peer →
    ∃ held, tried.held? peer = some held ∧ (held.Storable → given.snapshot = held)

/-- An attempt that succeeds gives the node its state and does nothing else. -/
theorem Waits.ready {begun ready : Cluster} (waits : cluster.Waits (begun.joining me))
    (isReady : cluster.attempt me = .ready ready) :
    ∃ given, cluster.Gives me begun.settings given ∧ ready.hub = cluster.hub ∧
      ready.node? me = some ⟨me, given, .joining⟩ := by
  have found : cluster.node? me = some (begun.joining me) := waits.found
  rw [attempt] at isReady
  cases oldest : cluster.hub.multicastView.oldestOther? me with
  | some peer =>
      simp only [oldest] at isReady
      cases fetched : cluster.fetchSnapshot me peer with
      | error fault => simp [fetched] at isReady
      | ok snapshot =>
          simp only [fetched] at isReady
          obtain rfl := Attempt.ready.inj isReady
          refine ⟨(begun.joining me).replica.restore snapshot, ⟨by simp [oldest], ?_⟩, rfl,
            node?_modifyNode found fun _ => rfl⟩
          intro other same
          obtain rfl := Option.some.inj (oldest.symm.trans same)
          exact held_of_fetch fetched
  | none =>
      have nobody : ∀ peer, cluster.hub.multicastView.oldestOther? me ≠ some peer := by
        simp [oldest]
      cases named : cluster.seed with
      | none =>
          simp only [oldest, named] at isReady
          obtain rfl := Attempt.ready.inj isReady
          exact ⟨_, ⟨fun _ => by rw [named]; rfl, fun peer same => absurd same (nobody peer)⟩, rfl,
            found⟩
      | some contents =>
          simp only [oldest, named, found] at isReady
          split at isReady
          · rename_i replica seeded
            obtain rfl := Attempt.ready.inj isReady
            have isFirst : replica = .first begun.settings cluster.seed := by
              rw [named]
              exact (congrArg Prod.snd seeded).symm
            exact ⟨replica, ⟨fun _ => isFirst, fun peer same => absurd same (nobody peer)⟩, rfl,
              node?_modifyNode found fun _ => rfl⟩
          · contradiction

/-- The clusters in which the attempts of a node are made, while the given changes happen. -/
def tries (me : Address) (cluster : Cluster) : List (Cluster → Cluster) → List Cluster
  | [] => [cluster]
  | change :: rest =>
    match cluster.attempt me with
    | .blocked _ waiting => cluster :: tries me (change waiting) rest
    | _ => [cluster]

/-- The changes are made by others while a node waits. -/
def Amid (me : Address) (cluster : Cluster) : List (Cluster → Cluster) → Prop
  | [] => True
  | change :: rest => Meanwhile me cluster (change cluster) ∧ Amid me (change cluster) rest

/-- All attempts but the last one fail, and it is the last one that counts.  The node waits until
then. -/
theorem Waits.initialise {changes : List (Cluster → Cluster)} (waits : cluster.Waits node)
    (amid : Amid node.address cluster changes) :
    (∀ tried ∈ tries node.address cluster changes, tried.Waits node) ∧
      ∃ earlier last, tries node.address cluster changes = earlier ++ [last] ∧
        (∀ tried ∈ earlier, ∃ fault, tried.attempt node.address = .blocked fault tried) ∧
        initialise node.address cluster changes = last.attempt node.address := by
  induction changes generalizing cluster with
  | nil => exact ⟨by simpa [tries] using waits, [], cluster, rfl, nofun, rfl⟩
  | cons change rest induction =>
      obtain ⟨meanwhile, amid⟩ := amid
      rw [tries, Cluster.initialise]
      cases tried : cluster.attempt node.address with
      | ready ready => exact ⟨by simpa using waits, [], cluster, rfl, nofun, tried.symm⟩
      | failed fault failed => exact ⟨by simpa using waits, [], cluster, rfl, nofun, tried.symm⟩
      | blocked fault waiting =>
          obtain ⟨rfl, -⟩ := attempt_eq_blocked tried
          obtain ⟨still, earlier, last, split, blocked, outcome⟩ :=
            induction (waits.meanwhile meanwhile) amid
          exact ⟨List.forall_mem_cons.mpr ⟨waits, still⟩, waiting :: earlier, last,
            congrArg (List.cons waiting) split,
            List.forall_mem_cons.mpr ⟨⟨fault, tried⟩, blocked⟩, outcome⟩

/-! ## Answering requests -/

/-- A node has been admitted to the RPC group, under an address that was nobody's. -/
structure Admits (cluster after : Cluster) (node : Node) (rpc : Address) : Prop where
  found : after.node? node.address = some node
  unused : rpc ∉ cluster.hub.rpcView.members
  view : after.hub.rpcView = cluster.hub.rpcView.joined rpc
  answers : after.hub.rpcAddress? node.address = some rpc

/-- When everybody has read what has arrived it is as before, if no command was among it. -/
theorem Admits.settle {rpc : Address} (admits : cluster.Admits after node rpc)
    (quiet : after.peersOf node.address = []) : cluster.Admits after.settle node rpc where
  found := (node?_settle quiet).trans admits.found
  unused := admits.unused
  view := after.shifts_settle.2.view.trans admits.view
  answers := (Hub.rpcAddress?_congr after.shifts_settle.2.standing _).trans admits.answers

/-- A node that has its state is admitted when it joins the RPC group, if there is an address left
for it. -/
theorem beginServing_of_awaits {given : Replica} (awaits : cluster.hub.Awaits me)
    (found : cluster.node? me = some ⟨me, given, .joining⟩) :
    (∃ fault, cluster.beginServing me = (.error fault, cluster)) ∨
      ∃ rpc after, cluster.beginServing me = (.ok rpc, after) ∧ after.peersOf me = [] ∧
        cluster.Admits after ⟨me, given, .serving⟩ rpc := by
  have isMember : me ∈ cluster.hub.members.map Member.address :=
    (cluster.hub.standing_isSome me).mp (by rw [awaits.standing]; rfl)
  rcases cluster.beginServing_cases me with
    refused | ⟨rpc, serving, joinRpc, ⟨fault, unheard, -⟩ | ⟨announced, announce, begun⟩⟩
  · exact .inl ⟨.overflow, refused⟩
  · obtain ⟨announced, announce, -⟩ := serving.exists_announce me rpc
    cases unheard.symm.trans announce
  · obtain ⟨after, isAfter⟩ : ∃ after, after = (cluster.withHub announced).modifyNode me
      fun node => { node with phase := .serving } := ⟨_, rfl⟩
    rw [← isAfter] at begun
    have hub : after.hub = announced := by
      rw [isAfter]
      rfl
    have enters : cluster.hub.Does (.joinedRpc me rpc (.node me)) serving :=
      .joinRpc me (.node me) isMember joinRpc
    have tells : serving.Does (.sent me none (.announce rpc me)) announced := .of_announce announce
    have quiet : after.peersOf me = [] := by
      have unheard : (serving.queueOf me).filterMap Event.peer? = [] :=
        enters.uncommanded awaits.enumerated (by simp [Deed.Harmless]) awaits.uncommanded
      rw [peersOf, hub]
      exact tells.uncommanded (enters.enumerated awaits.enumerated) (by simp [Deed.Harmless]) unheard
    refine .inr ⟨rpc, after, begun, quiet, ?_, ?_, ?_, ?_⟩
    · have still : (cluster.withHub announced).node? me = some ⟨me, given, .joining⟩ := found
      rw [isAfter]
      exact node?_modifyNode still fun _ => rfl
    · exact awaits.enumerated.numbered.unused_of_joinRpc joinRpc
    · have view : announced.rpcView = serving.rpcView := by
        rw [Hub.announce_eq_ok announce]
        rfl
      rw [hub, view]
      exact Hub.rpcView_joinRpc joinRpc
    · have stands : announced.standing me = some (true, some rpc) := by
        rw [Hub.standing_announce announce, Hub.standing_joinRpc joinRpc, if_pos rfl,
          awaits.standing]
        rfl
      rw [hub, Hub.rpcAddress?_eq, stands]
      rfl

/-! ## Starting -/

/-- Everybody has a number that was given out, and behind every RPC address under which a node
answers is one that has joined. -/
structure Registered (cluster : Cluster) : Prop where
  enumerated : cluster.hub.Enumerated
  nodes : ∀ node ∈ cluster.nodes, node.address ∈ cluster.hub.members.map Member.address
  answering : ∀ entry ∈ cluster.hub.handlers, ∀ address, entry.2 = .node address →
    address ∈ cluster.hub.members.map Member.address

/-- Whatever a hub without processes comes to, everybody is registered. -/
theorem Course.registered {settings : Settings} {seed : Option (Option (List UInt8))}
    {accounts : Accounts} {past : List (Cluster × Occurrence)}
    (course : (fresh settings seed accounts).Course past cluster) : cluster.Registered where
  enumerated := ⟨course.cast.proper.distinct, course.cast.proper.numbered⟩
  nodes node listed := course.cast.joined node.address (List.mem_map_of_mem listed)
  answering entry listed address answers := by
    obtain ⟨multicast, isNode, same, -⟩ := course.engaged.nodes entry listed
    obtain rfl := Answerer.node.inj (answers.symm.trans same)
    exact course.cast.joined address isNode

/-- A node that has just joined waits. -/
theorem Registered.waits {joined : Cluster} (registered : cluster.Registered)
    (joins : cluster.joinNode? = some (me, joined)) : joined.Waits (cluster.joining me) := by
  obtain ⟨hub, join, rfl⟩ := joinNode?_eq_some joins
  obtain ⟨enumerated, nodes, answering⟩ := registered
  have isNew {address : Address} (used : address ∈ cluster.hub.members.map Member.address) :
      address ≠ me := enumerated.numbered.ne_of_join join used
  have does : cluster.hub.Does (.joined me .node) hub := .join StateSource.node join
  refine ⟨⟨does.enumerated enumerated, ?_, ?_, ?_⟩, ?_⟩
  · exact (Hub.standing_join enumerated.numbered join me).trans (if_pos rfl)
  · intro entry listed same
    obtain ⟨-, -, rfl⟩ := Hub.join?_eq_some join
    exact isNew (answering entry listed me same) rfl
  · have nothing : cluster.hub.queueOf me = [] :=
      Hub.queueOf_of_fresh (Hub.fresh_of_join enumerated.numbered join)
    have quiet : (cluster.hub.queueOf me).filterMap Event.peer? = [] := by
      rw [nothing]
      rfl
    exact does.uncommanded enumerated nofun quiet
  · exact node?_enlarged (fun other listed => isNew (nodes other listed)) hub

/-- A start fails, and the hub is as it was at the last attempt; or the node has got a state by that
attempt and has been admitted with it. -/
theorem startNodeAmid_cases {begun joined : Cluster} {changes : List (Cluster → Cluster)}
    (joins : begun.joinNode? = some (me, joined)) (waits : cluster.Waits (begun.joining me))
    (outcome : initialise me joined changes = cluster.attempt me) :
    (∃ (fault : Fault) (failed : Cluster),
        begun.startNodeAmid changes = (.error fault, failed.settle) ∧
          failed.hub = cluster.hub) ∨
      ∃ rpc given after, begun.startNodeAmid changes = (.ok (me, rpc), after) ∧
        cluster.Gives me begun.settings given ∧
        cluster.Admits after ⟨me, given, .serving⟩ rpc := by
  have same := cluster.hub_attempt me
  rw [startNodeAmid, joins]
  simp only [outcome]
  cases tried : cluster.attempt me with
  | failed fault failed => exact .inl ⟨_, failed, rfl, by rw [tried] at same; exact same⟩
  | blocked fault failed => exact .inl ⟨_, failed, rfl, by rw [tried] at same; exact same⟩
  | ready ready =>
      obtain ⟨given, gives, hub, found⟩ := waits.ready tried
      have awaits : ready.hub.Awaits me := by
        rw [hub]
        exact waits.hub
      rcases beginServing_of_awaits awaits found with
        ⟨fault, refused⟩ | ⟨rpc, after, begins, quiet, admits⟩
      · simp only [refused]
        exact .inl ⟨fault, ready, rfl, hub⟩
      · simp only [begins]
        have settled := admits.settle quiet
        exact .inr ⟨rpc, given, after.settle, rfl, gives, settled.found, hub ▸ settled.unused,
          hub ▸ settled.view, settled.answers⟩

/-- However often a node has to try, and whatever happens elsewhere in the meantime, all attempts but
the last one leave everything as it is.  Until the last one, and at any moment after any of them,
the node holds the replica it was made with, has no RPC address and is in nobody's audience.  If the
start fails the RPC group is as it was at the last attempt.  If it succeeds the node holds bit for
bit the state of the member that was the oldest other one at the last attempt or, if there was none,
the state that every node begins with; and only then has the RPC group one member more. -/
theorem Registered.state_of_last_attempt {joined : Cluster} {changes : List (Cluster → Cluster)}
    (registered : cluster.Registered) (joins : cluster.joinNode? = some (me, joined))
    (amid : Amid me joined changes) :
    ∃ earlier last, tries me joined changes = earlier ++ [last] ∧
      (∀ tried ∈ earlier, ∃ fault, tried.attempt me = .blocked fault tried) ∧
      (∀ tried ∈ tries me joined changes, ∀ moment, Meanwhile me tried moment →
        moment.node? me = some (cluster.joining me) ∧ moment.hub.rpcAddress? me = none ∧
          ∀ caller, ∀ entry ∈ moment.hub.audience caller, entry.2 ≠ .node me) ∧
      (∀ fault after, cluster.startNodeAmid changes = (.error fault, after) →
        after.hub.rpcView = last.hub.rpcView ∧ after.hub.rpcAddress? me = none) ∧
      ∀ own rpc after, cluster.startNodeAmid changes = (.ok (own, rpc), after) →
        own = me ∧ ∃ given, last.Gives me cluster.settings given ∧
          last.Admits after ⟨me, given, .serving⟩ rpc := by
  obtain ⟨still, earlier, last, split, blocked, outcome⟩ := (registered.waits joins).initialise amid
  have waits : last.Waits (cluster.joining me) := still last (by simp [split])
  refine ⟨earlier, last, split, blocked, fun tried listed moment meanwhile => ?_, ?_, ?_⟩
  · have waiting := (still tried listed).meanwhile meanwhile
    exact ⟨waiting.found, waiting.hub.rpcAddress?_eq_none,
      fun caller entry asked => waiting.hub.unasked asked⟩
  · intro fault after start
    rcases startNodeAmid_cases joins waits outcome with
      ⟨cause, failed, result, hub⟩ | ⟨rpc, given, done, result, -, -⟩
    · obtain ⟨-, rfl⟩ := Prod.mk.inj (result.symm.trans start)
      have unmoved := failed.shifts_settle.2
      refine ⟨unmoved.view.trans (congrArg Hub.rpcView hub), ?_⟩
      rw [Hub.rpcAddress?_congr unmoved.standing, hub]
      exact waits.hub.rpcAddress?_eq_none
    · obtain ⟨contrary, -⟩ := Prod.mk.inj (result.symm.trans start)
      contradiction
  · intro own rpc after start
    rcases startNodeAmid_cases joins waits outcome with
      ⟨cause, failed, result, -⟩ | ⟨rpc', given, done, result, gives, admits⟩
    · obtain ⟨contrary, -⟩ := Prod.mk.inj (result.symm.trans start)
      contradiction
    · obtain ⟨addresses, rfl⟩ := Prod.mk.inj (result.symm.trans start)
      obtain ⟨rfl, rfl⟩ := Prod.mk.inj (Except.ok.inj addresses)
      exact ⟨rfl, given, gives, admits⟩

theorem registered_drifted : drifted.Registered where
  enumerated := ⟨by decide, by decide, by decide, by decide⟩
  nodes := by decide
  answering := by simp [drifted]

/-- What everybody's numbers and handlers say does not depend on who is cut off. -/
theorem Registered.isolate (registered : cluster.Registered) (address : Address) :
    (cluster.isolate address).Registered :=
  ⟨⟨registered.enumerated.distinct, registered.enumerated.numbered.members,
    registered.enumerated.numbered.view, registered.enumerated.numbered.handlers⟩,
    registered.nodes, registered.answering⟩

/-- The orderly cluster, whose two oldest nodes are cut off. -/
def severed : Cluster := (drifted.isolate ⟨.multicast, 2⟩).isolate ⟨.multicast, 4⟩

/-- The two oldest nodes stop one after the other. -/
def desertions : List (Cluster → Cluster) :=
  [fun cluster => cluster.stopNode ⟨.multicast, 2⟩, fun cluster => cluster.stopNode ⟨.multicast, 4⟩]

/-- The two oldest nodes are cut off and stop one after the other while a fourth one is trying to
get a state.  What it gets in the end is the state of the third, which has drifted. -/
theorem Registered.state_of_last_attempt_deserted :
    ∃ joined, severed.joinNode? = some (⟨.multicast, 8⟩, joined) ∧
      (∀ tried ∈ tries ⟨.multicast, 8⟩ joined desertions,
        ∀ caller, ∀ entry ∈ tried.hub.audience caller, entry.2 ≠ .node ⟨.multicast, 8⟩) ∧
      ∃ given, given.snapshot = { (Replica.fresh 1000 5000).snapshot with fingerprint := 8 } ∧
        (severed.startNodeAmid desertions).2.node? ⟨.multicast, 8⟩ =
          some ⟨⟨.multicast, 8⟩, given, .serving⟩ := by
  obtain ⟨joined, joins⟩ : ∃ joined, severed.joinNode? = some (⟨.multicast, 8⟩, joined) := by
    have address : severed.joinNode?.map Prod.fst = some ⟨.multicast, 8⟩ := by decide
    obtain ⟨⟨me, joined⟩, joins, rfl⟩ := Option.map_eq_some_iff.mp address
    exact ⟨joined, joins⟩
  have isJoined : joined = (severed.joinNode?.map Prod.snd).getD severed := by
    rw [joins]
    rfl
  have amid : Amid ⟨.multicast, 8⟩ joined desertions := by
    rw [isJoined]
    exact ⟨meanwhile_stopNode (by decide) (by decide),
      meanwhile_stopNode (by decide +kernel) (by decide), trivial⟩
  have start : (severed.startNodeAmid desertions).1 = .ok (⟨.multicast, 8⟩, ⟨.rpc, 9⟩) := by
    decide +kernel
  have registered : severed.Registered :=
    (registered_drifted.isolate ⟨.multicast, 2⟩).isolate ⟨.multicast, 4⟩
  obtain ⟨earlier, last, isSplit, -, waiting, -, served⟩ :=
    registered.state_of_last_attempt joins amid
  obtain ⟨-, given, ⟨-, taken⟩, admits⟩ := served _ _ _ (Prod.ext start rfl)
  have isLast : (tries ⟨.multicast, 8⟩ joined desertions).getLast? = some last := by
    rw [isSplit, List.getLast?_concat]
  have oldest : (some last).map (fun tried => tried.hub.multicastView.oldestOther? ⟨.multicast, 8⟩) =
      some (some ⟨.multicast, 6⟩) := by
    rw [← isLast, isJoined]
    decide +kernel
  have holds : (some last).map (fun tried => tried.held? ⟨.multicast, 6⟩) =
      some (some { (Replica.fresh 1000 5000).snapshot with fingerprint := 8 }) := by
    rw [← isLast, isJoined]
    decide +kernel
  obtain ⟨held, isHeld, same⟩ := taken _ (Option.some.inj oldest)
  obtain rfl := Option.some.inj (isHeld.symm.trans (Option.some.inj holds))
  refine ⟨joined, joins, fun tried listed => (waiting tried listed tried .refl).2.2, given,
    same ?_, admits.found⟩
  simp [Snapshot.Storable, Replica.fresh, Replica.snapshot, Catalogue.empty]

end Cluster

end AuctionHouse
