import AuctionHouse.Proofs.BallotClasses
import AuctionHouse.Proofs.MajorityMasking

/-!
# One fingerprint round brings the nodes together

In a cluster in which nothing is cut off and the coordinator knows all addresses, a fingerprint
round finds the most frequent fingerprint, on a tie the one of the oldest member, and all nodes with
another one then take over the state of the first node that has it.  After that all fingerprints are
equal, and a further round changes nothing at all.
-/

namespace AuctionHouse.Cluster

/-- Neither the coordinator nor any node is cut off, at either of its addresses. -/
structure Connected (cluster : Cluster) (me : Address) : Prop where
  coordinator : cluster.hub.isReachable me = true
  rpc : ∀ rpc ∈ cluster.hub.rpcView.members, cluster.hub.isReachable rpc = true
  multicast : ∀ node ∈ cluster.running, cluster.hub.isReachable node.address = true

/-- The coordinator has noted the multicast address of every member of the RPC group. -/
def Informed (cluster : Cluster) (me : Address) : Prop :=
  ∀ rpc ∈ cluster.hub.rpcView.members,
    (cluster.bookOf me).find? rpc = cluster.hub.nodeBehind? rpc

/-- The nodes in the order of the RPC view. -/
def inView (cluster : Cluster) : List Node :=
  cluster.hub.rpcView.members.filterMap fun rpc =>
    (cluster.hub.nodeBehind? rpc).bind cluster.node?

/-- The fingerprints of the nodes in the order of the RPC view. -/
def fingerprints (cluster : Cluster) : List Fingerprint :=
  cluster.inView.map fun node => node.replica.fingerprint

variable {cluster : Cluster} {me : Address}

theorem Informed.truthful (informed : cluster.Informed me) : cluster.Truthful me := by
  intro rpc member multicast known
  rw [← informed rpc member]
  exact known

/-! ## The votes of a fingerprint round -/

/-- In a connected cluster a request reaches all nodes. -/
theorem Connected.reached_snd (connected : cluster.Connected me) :
    (cluster.reached me).map Prod.snd = cluster.inView := by
  have all : cluster.hub.rpcView.members.filter cluster.hub.isReachable =
      cluster.hub.rpcView.members := List.filter_eq_self.mpr connected.rpc
  rw [reached, if_pos connected.coordinator, all, inView, List.map_filterMap]
  refine List.filterMap_congr fun rpc _ => ?_
  rw [Option.map_map]
  exact Option.map_id_apply

/-- Every node that is reached gives its fingerprint. -/
theorem votes_fingerprint (cluster : Cluster) (me : Address) :
    cluster.votes me .fingerprint =
      (cluster.reached me).map fun entry =>
        (entry.1, Reply.fingerprint entry.2.replica.fingerprint) := by
  rw [votes, ← List.filterMap_eq_map]
  refine List.filterMap_congr fun entry _ => ?_
  have storable : (Reply.fingerprint entry.2.replica.fingerprint).Storable := trivial
  have replied : entry.2.replica.reply? .fingerprint =
      some (.fingerprint entry.2.replica.fingerprint) :=
    Replica.reply?_of_served rfl storable
  rw [replied]
  rfl

/-- Whoever is reached has a vote. -/
theorem vote_of_reached {entry : Address × Node} (isReached : entry ∈ cluster.reached me) :
    (entry.1, Reply.fingerprint entry.2.replica.fingerprint) ∈ cluster.votes me .fingerprint := by
  rw [votes_fingerprint]
  exact List.mem_map_of_mem (f := fun entry : Address × Node =>
    (entry.1, Reply.fingerprint entry.2.replica.fingerprint)) isReached

theorem mem_votes_fingerprint {vote : Address × Reply}
    (member : vote ∈ cluster.votes me .fingerprint) :
    ∃ node, (vote.1, node) ∈ cluster.reached me ∧
      vote.2 = .fingerprint node.replica.fingerprint := by
  rw [votes_fingerprint] at member
  obtain ⟨⟨rpc, node⟩, isReached, rfl⟩ := List.mem_map.mp member
  exact ⟨node, isReached, rfl⟩

/-- Fingerprints can be compared. -/
theorem comparable_fingerprints (cluster : Cluster) (me : Address) :
    Ballot.Comparable (cluster.votes me .fingerprint) := by
  have same {left right : Address × Reply} (isRight : right ∈ cluster.votes me .fingerprint)
      (equal : (left.2 == right.2) = true) : left.2 = right.2 := by
    obtain ⟨node, -, value⟩ := mem_votes_fingerprint isRight
    exact Reply.eq_of_beq equal fun auction removed => by simp [value] at removed
  have self {vote : Address × Reply} (member : vote ∈ cluster.votes me .fingerprint) :
      (vote.2 == vote.2) = true := by
    obtain ⟨node, -, value⟩ := mem_votes_fingerprint member
    rw [value]
    exact beq_self_eq_true node.replica.fingerprint
  refine ⟨fun vote member => self member, ?_, ?_⟩
  · intro left isLeft right isRight equal
    rw [same isRight equal]
    exact self isRight
  · intro first isFirst second isSecond third isThird left right
    rw [same isSecond left]
    exact right

/-- Whoever is reached and has another fingerprint than the one that wins is a dissenter, and nobody
else who is reached. -/
theorem Manned.mem_dissenters_fingerprint (manned : cluster.Manned) {fingerprint : Fingerprint}
    {voters : List Address}
    (wins : (cluster.ballotOf me .fingerprint).majority? =
      some (.fingerprint fingerprint, voters))
    {entry : Address × Node} (isReached : entry ∈ cluster.reached me) :
    entry.1 ∈ (cluster.ballotOf me .fingerprint).dissenters ↔
      entry.2.replica.fingerprint ≠ fingerprint := by
  have dissents := Ballot.mem_dissenters_iff (cluster.comparable_fingerprints me)
    (manned.voters_nodup me .fingerprint) wins (vote_of_reached isReached)
  refine dissents.trans ?_
  change (fingerprint == entry.2.replica.fingerprint) = false ↔ _
  rw [beq_eq_false_iff_ne, ne_comm]

theorem supporters_fingerprint (cluster : Cluster) (me : Address) (value : Fingerprint) :
    Ballot.supporters (cluster.votes me .fingerprint) (.fingerprint value) =
      ((cluster.reached me).filter fun entry =>
        entry.2.replica.fingerprint = value).map Prod.fst := by
  rw [Ballot.supporters, votes_fingerprint, List.filter_map, List.map_map]
  have alike : (cluster.reached me).filter
        ((fun vote : Address × Reply => Reply.fingerprint value == vote.2) ∘
          fun entry => (entry.1, Reply.fingerprint entry.2.replica.fingerprint)) =
      (cluster.reached me).filter fun entry => entry.2.replica.fingerprint = value := by
    refine List.filter_congr fun entry _ => ?_
    change (value == entry.2.replica.fingerprint) = decide (entry.2.replica.fingerprint = value)
    by_cases equal : entry.2.replica.fingerprint = value
    · simp [equal]
    · simp [equal, Ne.symm equal]
  rw [alike]
  rfl

theorem Connected.count_eq (connected : cluster.Connected me) (value : Fingerprint) :
    (Ballot.supporters (cluster.votes me .fingerprint) (.fingerprint value)).length =
      cluster.fingerprints.count value := by
  rw [supporters_fingerprint, List.length_map, fingerprints, ← connected.reached_snd,
    List.map_map, List.count_eq_countP, List.countP_map, List.countP_eq_length_filter]
  refine congrArg List.length (List.filter_congr fun entry _ => ?_)
  simp [Bool.beq_eq_decide_eq]

theorem Connected.firstSeen_eq (connected : cluster.Connected me) (value : Fingerprint) :
    Ballot.firstSeen (cluster.votes me .fingerprint) (.fingerprint value) =
      cluster.fingerprints.idxOf value := by
  rw [Ballot.firstSeen, votes_fingerprint, fingerprints, ← connected.reached_snd, List.idxOf,
    List.map_map, List.findIdx_map, List.findIdx_map]
  refine congrArg (fun test => (cluster.reached me).findIdx test) (funext fun entry => ?_)
  change (value == entry.2.replica.fingerprint) = (entry.2.replica.fingerprint == value)
  exact BEq.comm

/-- Any other fingerprint is less frequent than the one that wins, or as frequent and first seen
later. -/
theorem Connected.outvoted (connected : cluster.Connected me) {fingerprint : Fingerprint}
    {voters : List Address}
    (wins : (cluster.ballotOf me .fingerprint).majority? = some (.fingerprint fingerprint, voters))
    {other : Fingerprint} (given : other ∈ cluster.fingerprints) (differ : other ≠ fingerprint) :
    cluster.fingerprints.count other < cluster.fingerprints.count fingerprint ∨
      cluster.fingerprints.count other = cluster.fingerprints.count fingerprint ∧
        cluster.fingerprints.idxOf fingerprint < cluster.fingerprints.idxOf other := by
  obtain ⟨node, listed, rfl⟩ := List.mem_map.mp given
  rw [← connected.reached_snd] at listed
  obtain ⟨entry, isEntry, rfl⟩ := List.mem_map.mp listed
  obtain ⟨support, leads⟩ :=
    Ballot.winner_most_frequent (cluster.comparable_fingerprints me) wins
  have fewer := leads _ (vote_of_reached isEntry) (beq_eq_false_iff_ne.mpr differ.symm :
    (fingerprint == entry.2.replica.fingerprint) = false)
  rw [support] at fewer
  simpa only [connected.count_eq, connected.firstSeen_eq] using fewer

/-! ## Agreement -/

@[simp]
theorem afterRequest_fingerprint (cluster : Cluster) (me : Address) (node : Node) :
    cluster.afterRequest me .fingerprint node = node.replica := by
  rw [afterRequest, Replica.serve_fingerprint, ite_self]

@[simp]
theorem asked_fingerprint (cluster : Cluster) (me : Address) :
    cluster.asked me .fingerprint = cluster :=
  revise_self fun node _ => cluster.afterRequest_fingerprint me node

/-- A fingerprint round gives the fingerprint of the winning entry. -/
theorem Orderly.verify_eq (orderly : cluster.Orderly) (truthful : cluster.Truthful me)
    {fingerprint : Fingerprint} {voters : List Address}
    (wins : (cluster.ballotOf me .fingerprint).majority? =
      some (.fingerprint fingerprint, voters)) :
    ∃ more, (cluster.planOf me .fingerprint = [] → more = []) ∧
      cluster.verify me =
        (some fingerprint, cluster.revise (cluster.afterRound me .fingerprint) more) := by
  have storable : Request.fingerprint.Storable := trivial
  obtain ⟨more, quiet, round⟩ := orderly.settledRound_eq truthful storable
  have winner : (cluster.ballotOf me .fingerprint).winner? = some (.fingerprint fingerprint) :=
    congrArg (Option.map Prod.fst) wins
  refine ⟨more, quiet, ?_⟩
  rw [verify, round, winner]
  rfl

/-- Some fingerprint wins as soon as a node is reached. -/
theorem exists_fingerprint (nonempty : cluster.reached me ≠ []) :
    ∃ fingerprint voters, (cluster.ballotOf me .fingerprint).majority? =
      some (.fingerprint fingerprint, voters) := by
  have voted : cluster.votes me .fingerprint ≠ [] := by
    rw [votes_fingerprint]
    simpa using nonempty
  obtain ⟨⟨winner, voters⟩, wins⟩ := Ballot.exists_majority? voted
  obtain ⟨first, -, -, founder, -⟩ := Ballot.winner_founded wins
  obtain ⟨node, -, rfl⟩ := mem_votes_fingerprint founder
  exact ⟨_, voters, wins⟩

/-- Where all fingerprints are the same a fingerprint round changes nothing. -/
theorem Orderly.verify_of_agreement (orderly : cluster.Orderly) (truthful : cluster.Truthful me)
    (nonempty : cluster.reached me ≠ []) {fingerprint : Fingerprint}
    (agree : ∀ entry ∈ cluster.reached me, entry.2.replica.fingerprint = fingerprint) :
    cluster.verify me = (some fingerprint, cluster) := by
  obtain ⟨found, voters, wins⟩ := exists_fingerprint nonempty
  obtain ⟨first, rest, -, founder, -⟩ := Ballot.winner_founded wins
  obtain ⟨node, isReached, value⟩ := mem_votes_fingerprint founder
  obtain rfl : found = fingerprint := by
    rw [← agree _ isReached]
    exact Reply.fingerprint.inj value
  have nobody : (cluster.ballotOf me .fingerprint).dissenters = [] := by
    refine List.eq_nil_iff_forall_not_mem.mpr fun dissenter dissents => ?_
    obtain ⟨vote, isVote, rfl⟩ := List.mem_map.mp (Ballot.dissenters_voted dissents)
    obtain ⟨other, isOther, -⟩ := mem_votes_fingerprint isVote
    exact (orderly.manned.mem_dissenters_fingerprint wins isOther).mp dissents (agree _ isOther)
  have idle : cluster.planOf me .fingerprint = [] := by
    have targets := (cluster.ballotOf me .fingerprint).targets_sublist (cluster.bookOf me)
    rw [nobody] at targets
    exact List.map_eq_nil_iff.mp (List.eq_nil_of_sublist_nil targets)
  obtain ⟨more, quiet, result⟩ := orderly.verify_eq truthful wins
  rw [result, quiet idle, revise_self fun node _ => ?_]
  rw [afterRound_of_spared (by simp [idle]), afterRequest_fingerprint]

/-! ## Convergence -/

/-- In a connected cluster every serving node is reached. -/
theorem Connected.exists_reached (connected : cluster.Connected me) (arranged : cluster.Arranged)
    {node : Node} (isRunning : node ∈ cluster.running) :
    ∃ rpc, (rpc, node) ∈ cluster.reached me := by
  obtain ⟨-, -, -, -, -, rpc, listed, -, behind⟩ := arranged.enrolled node isRunning
  have present := node?_eq_some arranged.nodes (mem_running_iff.mp isRunning).1
  exact ⟨rpc, mem_reached_iff.mpr ⟨connected.coordinator, listed, connected.rpc rpc listed,
    by rw [behind]; exact present⟩⟩

/-- What a fingerprint round in a connected cluster makes of the replicas. -/
theorem Orderly.afterRound_fingerprint (orderly : cluster.Orderly)
    (connected : cluster.Connected me) (informed : cluster.Informed me)
    (texts : cluster.Storable) {fingerprint : Fingerprint} {voters : List Address}
    (wins : (cluster.ballotOf me .fingerprint).majority? =
      some (.fingerprint fingerprint, voters)) :
    ∃ source, cluster.inView.find? (fun node => node.replica.fingerprint = fingerprint) =
        some source ∧
      ∀ node ∈ cluster.nodes, cluster.afterRound me .fingerprint node =
        if node.phase = .serving ∧ node.replica.fingerprint ≠ fingerprint then
          node.replica.restore source.replica.snapshot
        else node.replica := by
  have truthful := informed.truthful
  have comparable := cluster.comparable_fingerprints me
  have support : voters = ((cluster.reached me).filter fun entry =>
      entry.2.replica.fingerprint = fingerprint).map Prod.fst :=
    (Ballot.winner_most_frequent comparable wins).1.trans (supporters_fingerprint _ _ _)
  obtain ⟨first, rest, voters', -, -⟩ := Ballot.winner_founded wins
  obtain ⟨⟨rpc, source⟩, others, leading, rfl, -⟩ :=
    List.map_eq_cons_iff.mp (support.symm.trans voters')
  have begins : voters = rpc :: rest := voters'
  have found : (cluster.reached me).find? (fun entry =>
      entry.2.replica.fingerprint = fingerprint) = some (rpc, source) := by
    rw [← List.head?_filter, leading]
    rfl
  have sourceReached := List.mem_of_find?_eq_some found
  obtain ⟨sourceRunning, sourceListed, sourceBehind⟩ := orderly.of_reached sourceReached
  refine ⟨source, ?_, fun node listed => ?_⟩
  · rw [← connected.reached_snd, List.find?_map]
    exact congrArg (Option.map Prod.snd) found
  by_cases serving : node.phase = .serving
  · have isRunning := mem_running_iff.mpr ⟨listed, serving⟩
    obtain ⟨own, isReached⟩ := connected.exists_reached orderly.toArranged isRunning
    have dissents := orderly.manned.mem_dissenters_fingerprint wins isReached
    by_cases same : node.replica.fingerprint = fingerprint
    · have agrees : own ∉ (cluster.ballotOf me .fingerprint).dissenters :=
        fun member => dissents.mp member same
      rw [if_neg fun other => other.2 same,
        orderly.afterRound_of_agreeing truthful isReached agrees, Replica.serve_fingerprint]
    · have member : own ∈ (cluster.ballotOf me .fingerprint).dissenters := dissents.mpr same
      obtain ⟨-, ownListed, ownBehind⟩ := orderly.of_reached isReached
      have step : (node.address, source.address) ∈ cluster.planOf me .fingerprint := by
        rw [planOf, Ballot.repairPlan, wins, begins]
        simp only [informed rpc sourceListed, sourceBehind]
        refine List.mem_map_of_mem (List.mem_filterMap.mpr ⟨own, member, ?_⟩)
        rw [informed own ownListed, ownBehind]
      have copied := orderly.copied_eq sourceRunning (texts source sourceRunning) node.address
        node.replica
      rw [connected.multicast node isRunning, connected.multicast source sourceRunning] at copied
      rw [if_pos ⟨serving, same⟩, afterRound, afterPlan,
        lookup_of_mem (targets_nodup orderly truthful) step, asked_fingerprint]
      simp only [afterRequest_fingerprint]
      exact copied
  · rw [orderly.afterRound_of_unreached truthful (orderly.unreached_of_idle listed serving),
      if_neg fun other => serving other.1]

/-- After one fingerprint round, in whatever order its repairs are carried out, all nodes have the
winning fingerprint: those that had it are unchanged, all others have the state of the first node in
the view that had it.  It was a most frequent one, and of several the first in the view.  A further
round gives it again and changes nothing, not even the notices. -/
theorem Orderly.fingerprint_round_converges (orderly : cluster.Orderly)
    (connected : cluster.Connected me) (informed : cluster.Informed me)
    (texts : cluster.Storable) (inhabited : cluster.running ≠ []) {order : List Address}
    (covers : ∀ node ∈ cluster.running, node.address ∈ order) :
    ∃ fingerprint source, ∃ after,
      after = (cluster.ballotRound me .fingerprint).2.settleIn order ∧
      (cluster.verify me).1 = some fingerprint ∧
      (∀ other ∈ cluster.fingerprints,
        cluster.fingerprints.count other < cluster.fingerprints.count fingerprint ∨
          cluster.fingerprints.count other = cluster.fingerprints.count fingerprint ∧
            cluster.fingerprints.idxOf fingerprint ≤ cluster.fingerprints.idxOf other) ∧
      cluster.inView.find? (fun node => node.replica.fingerprint = fingerprint) = some source ∧
      after.nodes = cluster.nodes.map (fun node =>
        if node.phase = .serving ∧ node.replica.fingerprint ≠ fingerprint then
          { node with replica := node.replica.restore source.replica.snapshot }
        else node) ∧
      (∀ node ∈ after.running, node.replica.fingerprint = fingerprint) ∧
      after.verify me = (some fingerprint, after) := by
  have truthful := informed.truthful
  have storable : Request.fingerprint.Storable := trivial
  obtain ⟨member, isMember⟩ := List.exists_mem_of_ne_nil _ inhabited
  obtain ⟨rpc, isReached⟩ := connected.exists_reached orderly.toArranged isMember
  obtain ⟨fingerprint, voters, wins⟩ := exists_fingerprint (List.ne_nil_of_mem isReached)
  obtain ⟨source, first, replicas⟩ :=
    orderly.afterRound_fingerprint connected informed texts wins
  obtain ⟨more, -, result⟩ := orderly.round truthful storable covers
  obtain ⟨noted, -, verified⟩ := orderly.verify_eq truthful wins
  have sourceValue : source.replica.fingerprint = fingerprint := by
    simpa using List.find?_some first
  have agree : ∀ node ∈ cluster.nodes, node.phase = .serving →
      (cluster.afterRound me .fingerprint node).fingerprint = fingerprint := by
    intro node listed serving
    rw [replicas node listed]
    split
    · exact sourceValue
    · rename_i kept
      by_contra differs
      exact kept ⟨serving, differs⟩
  refine ⟨fingerprint, source, _, rfl, congrArg Prod.fst verified, ?_, first, ?_, ?_, ?_⟩
  · intro other given
    rcases eq_or_ne other fingerprint with rfl | differ
    · exact .inr ⟨rfl, Nat.le_refl _⟩
    · exact (connected.outvoted wins given differ).imp_right fun tie =>
        ⟨tie.1, Nat.le_of_lt tie.2⟩
  · rw [result, nodes_revise]
    refine List.map_congr_left fun node listed => ?_
    rw [replicas node listed]
    split <;> rfl
  · intro node isRunning
    rw [result, running_revise] at isRunning
    obtain ⟨old, wasRunning, rfl⟩ := List.mem_map.mp isRunning
    obtain ⟨listed, serving⟩ := mem_running_iff.mp wasRunning
    exact agree old listed serving
  · rw [result]
    refine (orderly.revise_afterRound more).verify_of_agreement (truthful.revise _ more) ?_ ?_
    · rw [reached_revise]
      simpa using List.ne_nil_of_mem isReached
    · intro entry isEntry
      rw [reached_revise] at isEntry
      obtain ⟨old, wasReached, rfl⟩ := List.mem_map.mp isEntry
      obtain ⟨listed, serving⟩ := mem_running_iff.mp (orderly.of_reached wasReached).1
      exact agree old.2 listed serving

/-- The third node takes over the state of the first, also when it is the first to do anything. -/
theorem fingerprint_round_drifted :
    ∃ fingerprint source, ∃ after,
      after = (drifted.ballotRound ⟨.multicast, 1⟩ .fingerprint).2.settleIn
        [⟨.multicast, 6⟩, ⟨.multicast, 4⟩, ⟨.multicast, 2⟩] ∧
      (drifted.verify ⟨.multicast, 1⟩).1 = some fingerprint ∧
      (∀ other ∈ drifted.fingerprints,
        drifted.fingerprints.count other < drifted.fingerprints.count fingerprint ∨
          drifted.fingerprints.count other = drifted.fingerprints.count fingerprint ∧
            drifted.fingerprints.idxOf fingerprint ≤ drifted.fingerprints.idxOf other) ∧
      drifted.inView.find? (fun node => node.replica.fingerprint = fingerprint) = some source ∧
      after.nodes = drifted.nodes.map (fun node =>
        if node.phase = .serving ∧ node.replica.fingerprint ≠ fingerprint then
          { node with replica := node.replica.restore source.replica.snapshot }
        else node) ∧
      (∀ node ∈ after.running, node.replica.fingerprint = fingerprint) ∧
      after.verify ⟨.multicast, 1⟩ = (some fingerprint, after) :=
  orderly_drifted.fingerprint_round_converges ⟨by decide, by decide, by decide⟩
    (by unfold Informed; decide) storable_drifted (by decide) (by decide)

end AuctionHouse.Cluster
