import AuctionHouse.Proofs.AuctionLife
import AuctionHouse.Proofs.Custody
import AuctionHouse.Proofs.FingerprintRound
import AuctionHouse.Proofs.Promptness

/-!
# Where the states of repaired nodes come from

However far apart the replicas of a cluster are and whatever is cut off: after an operation each
node that was reached has a state to which some reached node came by serving the request, and each
other node is as it was.  Repairs copy states as a whole and never a state that was not there.

But they take their time.  A node that is repaired after the fingerprint round may fetch a state
before the request is served there and put it in the place of its own afterwards, and then it has
not served the request; it may fetch the state after the request is served there and serve it once
more.  If no repair is under way when the request is sent, each reached node has served it exactly
once, be it itself or through the node whose state it has copied.
-/

namespace AuctionHouse

namespace Replica

theorem afterRequests_replicate_succ (replica : Replica) (times : Nat) (request : Request) :
    replica.afterRequests (List.replicate (times + 1) request) =
      ((replica.afterRequests (List.replicate times request)).serve request).2 := by
  rw [List.replicate_succ', afterRequests, List.foldl_append]
  rfl

@[simp]
theorem probeLimit_afterRequests (replica : Replica) (requests : List Request) :
    (replica.afterRequests requests).probeLimit = replica.probeLimit := by
  induction requests generalizing replica with
  | nil => rfl
  | cons request rest induction => exact (induction _).trans (probeLimit_serve replica request)

theorem storable_afterRequests {replica : Replica} {requests : List Request}
    (texts : replica.snapshot.Storable) (storable : ∀ request ∈ requests, request.Storable) :
    (replica.afterRequests requests).snapshot.Storable := by
  induction requests generalizing replica with
  | nil => exact texts
  | cons request rest induction =>
      exact induction (storable_serve texts (storable request List.mem_cons_self))
        fun later isLater => storable later (List.mem_cons_of_mem _ isLater)

end Replica

namespace Cluster

variable {begun : Cluster} {me : Address} {request : Request}

/-- A state to which a reached node comes when it serves a request a number of times. -/
def Stems (begun : Cluster) (me : Address) (request : Request) (times : Nat) (address : Address)
    (snapshot : Snapshot) : Prop :=
  ∃ entry ∈ begun.reached me, entry.2.address = address ∧
    snapshot = (entry.2.replica.afterRequests (List.replicate times request)).snapshot

theorem Stems.storable {times : Nat} {address : Address} {snapshot : Snapshot}
    (stems : begun.Stems me request times address snapshot) (arranged : begun.Arranged)
    (texts : begun.Storable) (storable : request.Storable) : snapshot.Storable := by
  obtain ⟨entry, isReached, -, rfl⟩ := stems
  refine Replica.storable_afterRequests (texts entry.2 (arranged.of_reached isReached).1) ?_
  exact fun other among => List.eq_of_mem_replicate among ▸ storable

/-- Whoever holds such a state and serves the request holds one that has served it once more. -/
theorem Stems.serve {times : Nat} {address : Address} {replica : Replica}
    (stems : begun.Stems me request times address replica.snapshot) (arranged : begun.Arranged)
    (limit : replica.probeLimit = begun.settings.probeLimit) :
    begun.Stems me request (times + 1) address (replica.serve request).2.snapshot := by
  obtain ⟨entry, isReached, named, state⟩ := stems
  refine ⟨entry, isReached, named, ?_⟩
  have limit' : entry.2.replica.probeLimit = begun.settings.probeLimit :=
    arranged.configured _ (mem_running_iff.mp (arranged.of_reached isReached).1).1
  have same : replica = entry.2.replica.afterRequests (List.replicate times request) :=
    Replica.eq_of_snapshot state (by rw [limit, Replica.probeLimit_afterRequests, limit'])
  rw [Replica.afterRequests_replicate_succ, same]

/-- How often a node has served a request that some nodes have yet to serve. -/
def servings (waiting : List Address) (address : Address) : Nat :=
  if address ∈ waiting then 0 else 1

section Rules

variable (arranged : begun.Arranged) (texts : begun.Storable) (storable : request.Storable)
  (me : Address)

/-- What the reached nodes may hold while they copy the state of one of them and a request goes
around: each of them its own state, served as often as it has been asked; or else, unless it is the
source, a state of the source that the source has served at most as often as it has been asked, and
the node as often as it has been asked. -/
def oneSource (source : Address) (waiting : List Address) : Custody where
  party := begun.reachedAddresses me
  follows := fun address peer => address ≠ source ∧ peer = source
  held := fun address snapshot =>
    begun.Stems me request (servings waiting address) address snapshot ∨
      address ≠ source ∧ ∃ times ≤ servings waiting address + servings waiting source,
        begun.Stems me request times source snapshot
  carried := fun address snapshot =>
    address ≠ source ∧ ∃ times ≤ servings waiting source,
      begun.Stems me request times source snapshot
  storable := by
    rintro address snapshot (stems | ⟨-, times, -, stems⟩)
    · exact stems.storable arranged texts storable
    · exact stems.storable arranged texts storable
  handed := by
    rintro address peer snapshot ⟨differ, rfl⟩ (stems | ⟨same, -⟩)
    · exact ⟨differ, _, Nat.le_refl _, stems⟩
    · exact absurd rfl same
  restored := by
    rintro address snapshot ⟨differ, times, few, stems⟩
    exact .inr ⟨differ, times, by omega, stems⟩

/-- What the reached nodes may hold when anyone may copy the state of anyone: a state that some node
comes to by serving the request a number of times that is allowed. -/
def anySource (allowed : Nat → Prop) : Custody where
  party := begun.reachedAddresses me
  follows := fun _ _ => True
  held := fun _ snapshot =>
    ∃ source times, allowed times ∧ begun.Stems me request times source snapshot
  carried := fun _ snapshot =>
    ∃ source times, allowed times ∧ begun.Stems me request times source snapshot
  storable := by
    rintro address snapshot ⟨source, times, -, stems⟩
    exact stems.storable arranged texts storable
  handed := fun _ stems => stems
  restored := fun stems => stems

end Rules

theorem Arranged.running_of_reached (arranged : begun.Arranged) :
    ∀ address ∈ begun.reachedAddresses me, address ∈ begun.running.map Node.address := by
  intro address isReached
  obtain ⟨entry, isEntry, rfl⟩ := List.mem_map.mp isReached
  exact List.mem_map_of_mem (arranged.of_reached isEntry).1

/-- If all voters are reached, all repairs copy the state of one reached node to others. -/
theorem Arranged.exists_source {cluster : Cluster} (arranged : cluster.Arranged)
    (truthful : cluster.Truthful me) {votes : List (Address × Reply)}
    (once : (votes.map Prod.fst).Nodup)
    (asked : ∀ voter ∈ votes.map Prod.fst, voter ∈ (cluster.reached me).map Prod.fst) :
    ∃ source, ∀ step ∈ cluster.repairs me (.tally votes),
      step.1 ∈ cluster.reachedAddresses me ∧ step.2 ∈ cluster.reachedAddresses me ∧
        step.1 ≠ source ∧ step.2 = source := by
  -- whoever voted is noted under no address but its own
  have reached {voter multicast : Address} (voted : voter ∈ votes.map Prod.fst)
      (known : (cluster.bookOf me).find? voter = some multicast) :
      multicast ∈ cluster.reachedAddresses me ∧ voter ∈ cluster.hub.rpcView.members ∧
        cluster.hub.nodeBehind? voter = some multicast := by
    obtain ⟨entry, isReached, rfl⟩ := List.mem_map.mp (asked voter voted)
    obtain ⟨-, listed, behind⟩ := arranged.of_reached isReached
    obtain rfl := truthful.of_reached arranged isReached known
    exact ⟨List.mem_map_of_mem isReached, listed, behind⟩
  rw [repairs_eq]
  by_cases nothing : (Ballot.tally votes).repairPlan (cluster.bookOf me) = []
  · rw [nothing]
    exact ⟨me, by simp⟩
  · obtain ⟨⟨target, source⟩, isStep⟩ := List.exists_mem_of_ne_nil _ nothing
    refine ⟨source, fun step member => ?_⟩
    obtain ⟨winner, first, rest, wins, voters, known, dissenter, dissents, named⟩ :=
      Ballot.mem_repairPlan member
    obtain ⟨winner', first', rest', wins', voters', known', -⟩ := Ballot.mem_repairPlan isStep
    obtain rfl := Option.some.inj (wins.symm.trans wins')
    obtain ⟨rfl, rfl⟩ := List.cons.inj (voters.symm.trans voters')
    have same : step.2 = source := Option.some.inj (known.symm.trans known')
    obtain ⟨founder, others, founding, founded, -⟩ := Ballot.winner_founded wins
    obtain ⟨rfl, rfl⟩ := List.cons.inj (voters.symm.trans founding)
    obtain ⟨isSource, leaderListed, leaderBehind⟩ := reached (List.mem_map_of_mem founded) known
    obtain ⟨isTarget, listed, behind⟩ := reached (Ballot.dissenters_voted dissents) named
    refine ⟨isTarget, isSource, fun itself => ?_, same⟩
    have twice : dissenter = first := arranged.singly _ listed _ leaderListed
      (by rw [behind, leaderBehind, itself, same])
    refine Ballot.not_mem_winner once wins dissents ?_
    rw [twice, voters]
    exact List.mem_cons_self

end Cluster

namespace Scene

open Cluster

variable {me : Address} {request : Request} {begun : Cluster} {scene gathered after : Scene}
  {log : List Service} {replies : List (Address × Reply)}

theorem voters_sublist (request : Request) (log : List Service) :
    ((log.filterMap fun service => service.vote? request).map Prod.fst).Sublist
      (log.map Service.rpc) := by
  induction log with
  | nil => exact .slnil
  | cons service rest induction =>
      rw [List.filterMap_cons]
      cases vote : service.vote? request with
      | none => exact induction.cons _
      | some entry =>
          obtain ⟨received, -, rfl⟩ := Option.map_eq_some_iff.mp vote
          exact induction.cons_cons _

/-- All repairs of a round copy the state of one node, to others, and all of them were asked. -/
theorem FansOut.exists_source (arranged : scene.cluster.Arranged)
    (trusted : scene.cluster.Trusted me)
    (fansOut : FansOut request scene (scene.cluster.hub.audience me) log gathered)
    (arrived : replies.Perm (log.filterMap fun service => service.vote? request)) (view : View) :
    ∃ source, ∀ step ∈ gathered.cluster.repairs me (.tally (Ballot.inViewOrder view replies)),
      step.1 ∈ scene.cluster.reachedAddresses me ∧ step.2 ∈ scene.cluster.reachedAddresses me ∧
        step.1 ≠ source ∧ step.2 = source := by
  have steady := fansOut.steady.1
  have counted : ((Ballot.inViewOrder view replies).map Prod.fst).Perm
      ((log.filterMap fun service => service.vote? request).map Prod.fst) :=
    ((Ballot.inViewOrder_perm view replies).trans arrived).map Prod.fst
  have voted := voters_sublist request log
  have asked := fansOut.rpcs_perm arranged.manned
  have same := congrArg (List.map Prod.fst) (steady.reached me)
  rw [List.map_map, List.map_map] at same
  rw [← steady.reachedAddresses]
  refine (arranged.steady steady).exists_source (fansOut.trusted trusted).noted ?_
    fun voter votes => ?_
  · refine counted.nodup_iff.mpr (voted.nodup (asked.nodup_iff.mpr ?_))
    exact (arranged.manned.reached_sublist me).nodup arranged.view
  · exact same ▸ asked.mem_iff.mp (voted.mem (counted.mem_iff.mp votes))

/-! ## What nodes hold during an operation -/

section Phases

variable (arranged : begun.Arranged) (texts : begun.Storable) (storable : request.Storable)

/-- In the beginning each reached node has its own state. -/
theorem Calm.led (calm : scene.Calm) (steady : begun.Steady scene.cluster)
    (nodes : scene.cluster.nodes = begun.nodes) (source : Address) :
    scene.Keeps begun
      (oneSource arranged texts storable me source (begun.reachedAddresses me)) := by
  refine calm.keeps steady (fun _ listed _ => nodes ▸ listed)
    fun node listed (isReached : node.address ∈ begun.reachedAddresses me) => .inl ?_
  obtain ⟨entry, isEntry, named⟩ := List.mem_map.mp isReached
  obtain rfl := List.inj_on_of_nodup_map arranged.nodes
    (mem_running_iff.mp (arranged.of_reached isEntry).1).1 (nodes ▸ listed) named
  rw [servings, if_pos isReached]
  exact ⟨entry, isEntry, rfl, rfl⟩

/-- Before the request is sent a reached node has its own state or that of one other reached
node. -/
theorem Prepares.led (arranged : scene.cluster.Arranged) (texts : scene.cluster.Storable)
    (storable : request.Storable) {operation : Operation} {before : Scene} (calm : scene.Calm)
    (trusted : scene.cluster.Trusted me) (prepares : Prepares me scene operation before) :
    ∃ source, before.Keeps scene.cluster
      (oneSource arranged texts storable me source (scene.cluster.reachedAddresses me)) := by
  cases prepares with
  | verify => exact ⟨me, calm.led arranged texts storable (.refl _) rfl me⟩
  | check _ round meanwhile =>
      have nothing : Request.fingerprint.Storable := trivial
      obtain ⟨gathered, replies, fansOut, arrived, rfl, tells⟩ := round.of_storable nothing
      obtain ⟨kept, nodes, -⟩ := calm.asked arranged.manned fansOut
      rw [asked_fingerprint] at nodes
      obtain ⟨source, copies⟩ := fansOut.exists_source arranged trusted arrived
        gathered.cluster.hub.rpcView
      have rested : gathered.Keeps scene.cluster (oneSource arranged texts storable me source _) :=
        kept.led arranged texts storable fansOut.steady.1 nodes source
      exact ⟨source, (rested.tells arranged arranged.running_of_reached copies tells).meanwhile
        arranged arranged.running_of_reached meanwhile⟩

include arranged texts storable in
/-- While the request goes around each reached node serves it once. -/
theorem FansOut.led {source : Address} {before : Scene}
    (keeps : before.Keeps begun
      (oneSource arranged texts storable me source (begun.reachedAddresses me)))
    (fansOut : FansOut request before (before.cluster.hub.audience me) log gathered) :
    gathered.Keeps begun (oneSource arranged texts storable me source []) := by
  have isAsked : ((before.cluster.hub.audience me).map Prod.snd).Perm
      ((begun.reachedAddresses me).map Answerer.node) := by
    rw [keeps.steady.audience, arranged.manned.audience_eq, reachedAddresses, List.map_map,
      List.map_map]
    rfl
  refine fansOut.keeps arranged (oneSource arranged texts storable me source)
    (fun _ => arranged.running_of_reached) ?_ (arranged.manned.reachedAddresses_nodup me)
    (List.Subset.refl _) isAsked keeps
  intro scene waiting rest asked picked isReached fresh keeps
  have waits : asked ∈ waiting := picked.mem_iff.mpr List.mem_cons_self
  have others {address : Address} (differ : address ≠ asked) :
      servings waiting address = servings rest address := by
    simp [servings, picked.mem_iff, differ]
  have more (address : Address) : servings waiting address ≤ servings rest address := by
    by_cases same : address = asked
    · simp [servings, same, waits]
    · exact (others same).le
  have before : servings waiting asked = 0 := if_pos waits
  have after : servings rest asked = 1 := if_neg fresh
  refine keeps.answer arranged arranged.running_of_reached isReached rfl (fun _ _ => id) ?_ ?_ ?_
  · rintro address snapshot ⟨differ, times, few, stems⟩
    exact ⟨differ, times, few.trans (more source), stems⟩
  · rintro replica limit (stems | ⟨differ, times, few, stems⟩)
    · left
      rw [after]
      exact (before ▸ stems).serve arranged limit
    · refine .inr ⟨differ, times + 1, ?_, stems.serve arranged limit⟩
      have := more source
      omega
  · rintro address snapshot differ (stems | ⟨apart, times, few, stems⟩)
    · exact .inl (others differ ▸ stems)
    · refine .inr ⟨apart, times, ?_, stems⟩
      have := more source
      rw [others differ] at few
      omega

/-- When the request has gone around each reached node has a state that has served it, once or
twice or not at all. -/
theorem Keeps.mixed {source : Address}
    (keeps : gathered.Keeps begun (oneSource arranged texts storable me source [])) :
    gathered.Keeps begun (anySource arranged texts storable me (· ≤ 2)) := by
  have once (address : Address) : servings [] address = 1 := if_neg (by simp)
  refine keeps.mono rfl (fun _ _ _ _ _ => trivial) ?_ ?_
  · rintro address snapshot - (stems | ⟨-, times, few, stems⟩)
    · exact ⟨address, 1, by omega, once address ▸ stems⟩
    · rw [once, once] at few
      exact ⟨source, times, few, stems⟩
  · rintro address snapshot - ⟨-, times, few, stems⟩
    rw [once] at few
    exact ⟨source, times, by omega, stems⟩

include arranged texts storable in
/-- If nobody copies anything meanwhile each reached node has a state that has served it once. -/
theorem Calm.mixed {source : Address} {before : Scene} (calm : before.Calm)
    (keeps : before.Keeps begun
      (oneSource arranged texts storable me source (begun.reachedAddresses me)))
    (fansOut : FansOut request before (before.cluster.hub.audience me) log gathered) :
    gathered.Keeps begun (anySource arranged texts storable me (· = 1)) := by
  have steady := keeps.steady
  obtain ⟨kept, nodes, -⟩ := calm.asked (arranged.manned.steady steady) fansOut
  have limits := steady.limited _ arranged.configured
  refine kept.keeps (steady.trans fansOut.steady.1) ?_ ?_
  · rw [nodes]
    rintro node listed (unreached : node.address ∉ begun.reachedAddresses me)
    obtain ⟨old, wasNode, rfl⟩ := List.mem_map.mp listed
    have same : before.cluster.afterRequest me request old = old.replica := by
      rw [afterRequest, steady.reachedAddresses, if_neg unreached]
    rw [same]
    exact keeps.outside old wasNode unreached
  · rw [nodes]
    rintro node listed (isReached : node.address ∈ begun.reachedAddresses me)
    obtain ⟨old, wasNode, rfl⟩ := List.mem_map.mp listed
    have same : before.cluster.afterRequest me request old = (old.replica.serve request).2 := by
      rw [afterRequest, steady.reachedAddresses, if_pos isReached]
    rw [same]
    have waits (address : Address) (isAsked : address ∈ begun.reachedAddresses me) :
        servings (begun.reachedAddresses me) address = 0 := if_pos isAsked
    rcases keeps.inside old wasNode isReached with stems | ⟨-, times, few, stems⟩
    · rw [waits _ isReached] at stems
      exact ⟨_, 1, rfl, stems.serve arranged (limits old wasNode)⟩
    · have isSource : source ∈ begun.reachedAddresses me := by
        obtain ⟨entry, isEntry, rfl, -⟩ := stems
        exact List.mem_map_of_mem isEntry
      rw [waits _ isReached, waits _ isSource] at few
      obtain rfl : times = 0 := by omega
      exact ⟨_, 1, rfl, stems.serve arranged (limits old wasNode)⟩

end Phases

end Scene

/-- The state in which an operation leaves a single replica: a fingerprint round leaves it as it is,
all other operations have it serve their request once. -/
def Operation.leaves (accounts : Accounts) (replica : Replica) : Operation → Snapshot
  | .verify => replica.snapshot
  | operation => (replica.serve (operation.request accounts)).2.snapshot

namespace Operation

open Cluster Scene

theorem leaves_eq (accounts : Accounts) (replica : Replica) (operation : Operation) :
    operation.leaves accounts replica =
      (replica.serve (operation.request accounts)).2.snapshot := by
  cases operation <;> rfl

variable {operation : Operation} {scene before after : Scene} {me : Address} {log : List Service}
  {ballot : Ballot Reply}

/-- What is left of an operation: the reached nodes have states that may be held, all others are as
they were. -/
private theorem of_keeps {custody : Custody} (arranged : scene.cluster.Arranged)
    (party : custody.party = scene.cluster.reachedAddresses me)
    (keeps : after.Keeps scene.cluster custody) :
    (∀ node ∈ scene.cluster.nodes, node.address ∉ scene.cluster.reachedAddresses me →
        after.cluster.node? node.address = some node) ∧
      ∀ entry ∈ scene.cluster.reached me, ∃ final,
        after.cluster.node? entry.2.address = some final ∧
          custody.held entry.2.address final.replica.snapshot := by
  have distinct : (after.cluster.nodes.map Node.address).Nodup :=
    keeps.steady.addresses ▸ arranged.nodes
  have present {node : Node} (listed : node ∈ scene.cluster.nodes) :
      ∃ final ∈ after.cluster.nodes, final.address = node.address := by
    refine List.mem_map.mp ?_
    rw [keeps.steady.addresses]
    exact List.mem_map_of_mem listed
  constructor
  · intro node listed unreached
    obtain ⟨final, isNode, named⟩ := present listed
    have same := keeps.outside final isNode (by rw [party, named]; exact unreached)
    obtain rfl := List.inj_on_of_nodup_map arranged.nodes same listed named
    exact node?_eq_some distinct isNode
  · intro entry isReached
    obtain ⟨final, isNode, named⟩ :=
      present (mem_running_iff.mp (arranged.of_reached isReached).1).1
    refine ⟨final, named ▸ node?_eq_some distinct isNode, ?_⟩
    rw [← named]
    refine keeps.inside final isNode ?_
    rw [party, named]
    exact List.mem_map_of_mem isReached

/-- At any time after an operation each node that was not reached is as it was, and each node that
was reached has the state in which some reached node's replica is when it has served the request at
most twice.  It has served it exactly once if no repair is under way when the request is sent; so it
is with a fingerprint round, whose request leaves a replica as it is. -/
theorem leaves_reached_states (arranged : scene.cluster.Arranged)
    (calm : scene.Calm) (trusted : scene.cluster.Trusted me) (texts : scene.cluster.Storable)
    (storable : (operation.request scene.cluster.accounts).Storable)
    (performs : Performs me operation scene before log ballot after) :
    let request := operation.request scene.cluster.accounts
    (∀ node ∈ scene.cluster.nodes, node.address ∉ scene.cluster.reachedAddresses me →
        after.cluster.node? node.address = some node) ∧
      ∀ entry ∈ scene.cluster.reached me, ∃ final,
        after.cluster.node? entry.2.address = some final ∧
          (∃ other ∈ scene.cluster.reached me, ∃ times ≤ 2, final.replica.snapshot =
            (other.2.replica.afterRequests (List.replicate times request)).snapshot) ∧
          (operation = .verify ∨ before.Calm → ∃ other ∈ scene.cluster.reached me,
            final.replica.snapshot = operation.leaves scene.cluster.accounts other.2.replica) := by
  intro request
  obtain ⟨told, round, meanwhile⟩ := performs.round
  obtain ⟨source, led⟩ := performs.prepares.led arranged texts storable calm trusted
  obtain ⟨gathered, replies, fansOut, arrived, rfl, tells⟩ := round.of_storable storable
  have steady := led.steady
  have trusted' : before.cluster.Trusted me := performs.prepares.trusted trusted
  obtain ⟨_, copies⟩ := fansOut.exists_source (arranged.steady steady) trusted' arrived
    gathered.cluster.hub.rpcView
  rw [steady.reachedAddresses] at copies
  have ends {allowed : Nat → Prop}
      (keeps : gathered.Keeps scene.cluster (anySource arranged texts storable me allowed)) :
      after.Keeps scene.cluster (anySource arranged texts storable me allowed) :=
    (keeps.tells arranged arranged.running_of_reached
      (fun step isStep => ⟨(copies step isStep).1, (copies step isStep).2.1, trivial⟩)
      tells).meanwhile arranged arranged.running_of_reached meanwhile
  obtain ⟨spared, reached⟩ :=
    of_keeps arranged rfl (ends (fansOut.led arranged texts storable led).mixed)
  refine ⟨spared, fun entry isReached => ?_⟩
  obtain ⟨final, found, -, times, few, other, isOther, -, state⟩ := reached entry isReached
  refine ⟨final, found, ⟨other, isOther, times, few, state⟩, fun still => ?_⟩
  have quiet : before.Calm := by
    rcases still with rfl | quiet
    · cases performs.prepares with
      | verify => exact calm
      | check asks => contradiction
    · exact quiet
  obtain ⟨-, once⟩ := of_keeps arranged rfl (ends (quiet.mixed arranged texts storable led fansOut))
  obtain ⟨same, found', -, _, rfl, giver, isGiver, -, state'⟩ := once entry isReached
  obtain rfl := Option.some.inj (found.symm.trans found')
  refine ⟨giver, isGiver, ?_⟩
  rw [leaves_eq]
  exact state'

end Operation

/-! ## Repairs that take their time -/

/-- A coordinator with three nodes, of which the first one is cut off and the last one has
drifted. -/
def Cluster.halved : Cluster := drifted.isolate ⟨.rpc, 3⟩

namespace Operation

open Cluster Scene

/-- The opening of an auction. -/
def opening : Operation := .create "Ann" ⟨0⟩ "Lamp" ⟨0⟩

/-- After the fingerprint round the last node, which has been told to copy the state of the second
one, has fetched it. -/
def fetching : Scene where
  cluster :=
    let told := (halved.ballotRound ⟨.multicast, 1⟩ .fingerprint).2
    told.withHub (told.hub.dequeue ⟨.multicast, 6⟩)
  fetched :=
    Function.update (fun _ => none) ⟨.multicast, 6⟩ (some (Replica.fresh 1000 5000).snapshot)

/-- Both reached nodes have served the request by then. -/
def opened : Cluster :=
  (fetching.cluster.ballotRound ⟨.multicast, 1⟩ (opening.request halved.accounts)).2

private theorem listens_fetching :
    Listens ⟨(halved.ballotRound ⟨.multicast, 1⟩ .fingerprint).2, fun _ => none⟩ fetching := by
  obtain ⟨told, isTold⟩ : ∃ told, told = (halved.ballotRound ⟨.multicast, 1⟩ .fingerprint).2 :=
    ⟨_, rfl⟩
  have runs : ⟨.multicast, 6⟩ ∈ told.running.map Node.address := by
    rw [isTold]
    decide +kernel
  have waiting : told.hub.queueOf ⟨.multicast, 6⟩ =
      [.message ⟨.multicast, 1⟩ (.command .sync ⟨.multicast, 4⟩)] := by
    rw [isTold]
    decide +kernel
  have handed : told.fetchSnapshot ⟨.multicast, 6⟩ ⟨.multicast, 4⟩ =
      .ok (Replica.fresh 1000 5000).snapshot := by
    rw [isTold]
    rfl
  rw [fetching, ← isTold]
  exact .fetch_of_mem runs rfl waiting rfl handed

/-- The last node puts the state that it has fetched in the place of its own only now. -/
theorem performs_opening :
    ∃ log ballot after,
      Performs ⟨.multicast, 1⟩ opening (.still halved) fetching log ballot after ∧ after.Calm ∧
        (after.cluster.node? ⟨.multicast, 6⟩).map (fun node => node.replica.snapshot) =
          some (Replica.fresh 1000 5000).snapshot := by
  obtain ⟨checks, check⟩ := Round.of_ballotRound ⟨.multicast, 1⟩ .fingerprint (.still halved)
  have prepares : Prepares ⟨.multicast, 1⟩ (.still halved) opening fetching :=
    .check (by simp [opening]) check (.single listens_fetching)
  obtain ⟨log, round⟩ :=
    Round.of_ballotRound ⟨.multicast, 1⟩ (opening.request halved.accounts) fetching
  have listed : ⟨.multicast, 6⟩ ∈ opened.nodes.map Node.address := by decide +kernel
  have restore : Listens ⟨opened, fetching.fetched⟩ _ := .restore_of_mem listed rfl
  refine ⟨log, _, _, ⟨prepares, _, round, .single restore⟩, ⟨fun address => ?_, ?_⟩, ?_⟩
  · simp [fetching]
  · decide +kernel
  · decide +kernel

theorem arranged_halved : halved.Arranged :=
  (orderly_drifted.isolate ⟨.rpc, 3⟩).toArranged

theorem calm_halved : (Scene.still halved).Calm where
  fetched := fun _ => rfl
  untold := by decide

theorem trusted_halved : halved.Trusted ⟨.multicast, 1⟩ where
  noted := by
    unfold Truthful
    decide
  announced := by
    have quiet : halved.hub.queueOf ⟨.multicast, 1⟩ = [] := by decide
    simp [quiet]

/-- The first node is as it was, and the others have states of reached nodes. -/
theorem leaves_reached_states_halved :
    let cluster := halved
    let request := opening.request cluster.accounts
    ∃ log ballot after,
      Performs ⟨.multicast, 1⟩ opening (.still cluster) fetching log ballot after ∧
        (∀ node ∈ cluster.nodes, node.address ∉ cluster.reachedAddresses ⟨.multicast, 1⟩ →
          after.cluster.node? node.address = some node) ∧
        ∀ entry ∈ cluster.reached ⟨.multicast, 1⟩, ∃ final,
          after.cluster.node? entry.2.address = some final ∧
            ∃ other ∈ cluster.reached ⟨.multicast, 1⟩, ∃ times ≤ 2, final.replica.snapshot =
              (other.2.replica.afterRequests (List.replicate times request)).snapshot := by
  intro cluster request
  obtain ⟨log, ballot, after, performs, -⟩ := performs_opening
  have storable : request.Storable := ⟨by decide, by decide, by decide, by decide⟩
  obtain ⟨spared, reached⟩ := leaves_reached_states arranged_halved calm_halved trusted_halved
    storable_drifted storable performs
  refine ⟨log, ballot, after, performs, spared, fun entry isReached => ?_⟩
  obtain ⟨final, found, stems, -⟩ := reached entry isReached
  exact ⟨final, found, stems⟩

/-- The last node has been told to copy the state of the second one. -/
def unrepaired : Cluster := (halved.ballotRound ⟨.multicast, 1⟩ .fingerprint).2

/-- The second node has served the request. -/
def halfServed : Cluster :=
  (unrepaired.answer (opening.request halved.accounts) (.node ⟨.multicast, 4⟩)).2

/-- The last one, which has copied its state since then, serves the request as well. -/
def twiceServed : Cluster :=
  ((halfServed.work ⟨.multicast, 6⟩).answer (opening.request halved.accounts)
    (.node ⟨.multicast, 6⟩)).2

/-- Nothing keeps a node from copying a state while the request goes around. -/
theorem fansOut_twiceServed :
    ∃ log, FansOut (opening.request halved.accounts) (still unrepaired)
      [(⟨.rpc, 5⟩, .node ⟨.multicast, 4⟩), (⟨.rpc, 7⟩, .node ⟨.multicast, 6⟩)] log
      (still twiceServed) := by
  have copies : (still halfServed).Meanwhile (still (halfServed.work ⟨.multicast, 6⟩)) :=
    meanwhile_work (by decide +kernel) rfl
  have last : FansOut (opening.request halved.accounts) (still halfServed)
      [(⟨.rpc, 7⟩, .node ⟨.multicast, 6⟩)] _ (still twiceServed) :=
    .meanwhile copies (.serve (.refl _) (.ended _))
  exact ⟨_, .serve (.refl _) last⟩

theorem performs_opening_twice :
    ∃ before log ballot after,
      Performs ⟨.multicast, 1⟩ opening (.still halved) before log ballot after ∧
        (after.cluster.node? ⟨.multicast, 6⟩).map (fun node => node.replica.snapshot) =
          some ((Replica.fresh 1000 5000).afterRequests
            (List.replicate 2 (opening.request halved.accounts))).snapshot := by
  obtain ⟨checks, check⟩ := Round.of_ballotRound ⟨.multicast, 1⟩ .fingerprint (.still halved)
  have prepares : Prepares ⟨.multicast, 1⟩ (.still halved) opening (.still unrepaired) :=
    .check (by simp [opening]) check .refl
  have audience : unrepaired.hub.audience ⟨.multicast, 1⟩ =
      [(⟨.rpc, 5⟩, .node ⟨.multicast, 4⟩), (⟨.rpc, 7⟩, .node ⟨.multicast, 6⟩)] :=
    check.steady.audience.trans rfl
  obtain ⟨log, fansOut⟩ := fansOut_twiceServed
  rw [← audience] at fansOut
  have storable : (opening.request halved.accounts).Storable :=
    ⟨by decide, by decide, by decide, by decide⟩
  have round := Round.sent (Wire.transmit_of_survives (Wire.survives_request storable)) fansOut
    (.refl _) rfl (Tells.of_carryOut ⟨.multicast, 1⟩ _ twiceServed fun _ => none)
  refine ⟨_, _, _, _, ⟨prepares, _, round, .refl⟩, ?_⟩
  have same (plan : List (Address × Address)) :
      (carryOut ⟨.multicast, 1⟩ twiceServed plan).node? ⟨.multicast, 6⟩ =
        twiceServed.node? ⟨.multicast, 6⟩ :=
    congrArg (List.find? _) (nodes_carryOut _ _ _)
  rw [same]
  decide +kernel

/-- When all repairs are done a node that has been reached all the time may have served the request
neither itself nor through the node whose state it has; and before they are done it may have served
the request once through that node and once itself. -/
theorem skips_request :
    (¬∀ (operation : Operation) (cluster : Cluster) (me : Address) (before after : Scene)
      (log : List Service) (ballot : Ballot Reply), cluster.Arranged → (Scene.still cluster).Calm →
        cluster.Trusted me → cluster.Storable → (operation.request cluster.accounts).Storable →
        Performs me operation (.still cluster) before log ballot after → after.Calm →
        ∀ entry ∈ cluster.reached me, ∃ other ∈ cluster.reached me, ∃ final,
          after.cluster.node? entry.2.address = some final ∧
            final.replica.snapshot = operation.leaves cluster.accounts other.2.replica) ∧
    ¬∀ (operation : Operation) (cluster : Cluster) (me : Address) (before after : Scene)
      (log : List Service) (ballot : Ballot Reply), cluster.Arranged → (Scene.still cluster).Calm →
        cluster.Trusted me → cluster.Storable → (operation.request cluster.accounts).Storable →
        Performs me operation (.still cluster) before log ballot after →
        ∀ entry ∈ cluster.reached me, ∃ other ∈ cluster.reached me, ∃ final,
          after.cluster.node? entry.2.address = some final ∧ ∃ times ≤ 1,
            final.replica.snapshot = (other.2.replica.afterRequests
              (List.replicate times (operation.request cluster.accounts))).snapshot := by
  have storable : (opening.request halved.accounts).Storable :=
    ⟨by decide, by decide, by decide, by decide⟩
  obtain ⟨entry, isReached, named⟩ := List.mem_map.mp
    (show ⟨.multicast, 6⟩ ∈ halved.reachedAddresses ⟨.multicast, 1⟩ by decide)
  constructor
  · intro serves
    obtain ⟨log, ballot, after, performs, calm, late⟩ := performs_opening
    obtain ⟨other, isOther, final, found, state⟩ :=
      serves opening halved ⟨.multicast, 1⟩ fetching after log ballot arranged_halved calm_halved
        trusted_halved storable_drifted storable performs calm entry isReached
    have moved : ∀ other ∈ halved.reached ⟨.multicast, 1⟩,
        opening.leaves halved.accounts other.2.replica ≠ (Replica.fresh 1000 5000).snapshot := by
      decide +kernel
    rw [named] at found
    rw [found, Option.map_some, Option.some.injEq] at late
    exact moved other isOther (state.symm.trans late)
  · intro serves
    obtain ⟨before, log, ballot, after, performs, twice⟩ := performs_opening_twice
    obtain ⟨other, isOther, final, found, times, few, state⟩ :=
      serves opening halved ⟨.multicast, 1⟩ before after log ballot arranged_halved calm_halved
        trusted_halved storable_drifted storable performs entry isReached
    have fewer : ∀ other ∈ halved.reached ⟨.multicast, 1⟩, ∀ times < 2,
        (other.2.replica.afterRequests
          (List.replicate times (opening.request halved.accounts))).snapshot ≠
          ((Replica.fresh 1000 5000).afterRequests
            (List.replicate 2 (opening.request halved.accounts))).snapshot := by
      decide +kernel
    rw [named] at found
    rw [found, Option.map_some, Option.some.injEq] at twice
    exact fewer other isOther times (Nat.lt_succ_of_le few) (state.symm.trans twice)

end Operation

end AuctionHouse
