import AuctionHouse.Proofs.FingerprintRound

/-!
# Nodes that agree

If all nodes hold the same replica and nothing is cut off, a round gives the reply of that replica,
and afterwards all nodes hold what it has become.  Some of them may have been told to copy a state
in between: a reply that does not equal itself is outvoted by its own copies.  But the state that is
copied then is the one they all hold.
-/

namespace AuctionHouse

namespace Cluster

/-- All serving nodes hold the same replica. -/
def Unanimous (cluster : Cluster) (replica : Replica) : Prop :=
  ∀ node ∈ cluster.running, node.replica = replica

/-- What a coordinator gets when it asks a single replica, or nobody at all. -/
def answerOf (cluster : Cluster) (replica : Replica) (request : Request) : Except Fault Reply :=
  if cluster.running = [] then .error .noReplies
  else (replica.serve request).1.mapError fun _ => .noReplies

variable {cluster : Cluster} {me : Address} {replica : Replica} {request : Request}

/-- Whoever votes gives the reply of the common replica. -/
theorem Unanimous.reply_of_vote (unanimous : cluster.Unanimous replica)
    (arranged : cluster.Arranged) {vote : Address × Reply}
    (isVote : vote ∈ cluster.votes me request) : replica.reply? request = some vote.2 := by
  obtain ⟨node, isReached, replied⟩ := voter_reached isVote
  rwa [unanimous node (arranged.of_reached isReached).1] at replied

/-- Nodes that agree give one reply at most if it equals itself. -/
theorem Unanimous.distinctValues_lt (unanimous : cluster.Unanimous replica)
    (arranged : cluster.Arranged)
    (legible : ∀ reply, (replica.serve request).1 = .ok reply → reply.Storable)
    (equal : ∀ reply, (replica.serve request).1 = .ok reply → (reply == reply) = true) :
    (cluster.ballotOf me request).distinctValues < 2 := by
  rw [ballotOf, Ballot.distinctValues]
  cases served : (replica.serve request).1 with
  | error overflow =>
      have nobody : cluster.votes me request = [] := by
        refine List.eq_nil_iff_forall_not_mem.mpr fun vote isVote => ?_
        have replied := unanimous.reply_of_vote arranged isVote
        simp [Replica.reply?, served, Except.toOption] at replied
      rw [nobody]
      decide
  | ok reply =>
      have replied := Replica.reply?_of_served served (legible reply served)
      have agree : ∀ vote ∈ cluster.votes me request, vote.2 = reply := fun vote isVote =>
        Option.some.inj ((unanimous.reply_of_vote arranged isVote).symm.trans replied)
      rcases Ballot.tally_of_equal agree (equal reply served) with nobody | ⟨voters, one⟩
      · simp [nobody]
      · simp [one]

/-- So they are told nothing. -/
theorem Unanimous.planOf_eq_nil (unanimous : cluster.Unanimous replica)
    (arranged : cluster.Arranged)
    (legible : ∀ reply, (replica.serve request).1 = .ok reply → reply.Storable)
    (equal : ∀ reply, (replica.serve request).1 = .ok reply → (reply == reply) = true) :
    cluster.planOf me request = [] := by
  have targets := (cluster.ballotOf me request).targets_sublist (cluster.bookOf me)
  rw [Ballot.dissenters_of_few (unanimous.distinctValues_lt arranged legible equal)] at targets
  exact List.map_eq_nil_iff.mp (List.eq_nil_of_sublist_nil targets)

/-- A fingerprint round leaves nodes that agree as they are. -/
theorem Unanimous.prepared_eq (unanimous : cluster.Unanimous replica) (orderly : cluster.Orderly)
    (operation : Operation) : operation.prepared cluster me = cluster := by
  have storable : Request.fingerprint.Storable := trivial
  have idle : cluster.planOf me .fingerprint = [] := by
    refine unanimous.planOf_eq_nil orderly.toArranged (fun reply given => ?_) fun reply given => ?_
    · obtain rfl := Except.ok.inj given
      trivial
    · obtain rfl := Except.ok.inj given
      exact beq_self_eq_true replica.fingerprint
  have round : (cluster.settledRound me .fingerprint).2 = cluster := by
    rw [orderly.settledRound_of_idle storable idle, asked_fingerprint]
  cases operation with
  | verify => rfl
  | _ => exact round

/-- As soon as one node is reached the reply of the common replica wins. -/
theorem Unanimous.winner_of_reached (unanimous : cluster.Unanimous replica)
    (arranged : cluster.Arranged) (someone : cluster.reached me ≠ []) {reply : Reply}
    (replied : replica.reply? request = some reply) :
    (cluster.ballotOf me request).winner? = some reply := by
  obtain ⟨⟨rpc, node⟩, isReached⟩ := List.exists_mem_of_ne_nil _ someone
  have agrees : node.replica = replica := unanimous node (arranged.of_reached isReached).1
  have voted : (rpc, reply) ∈ cluster.votes me request :=
    List.mem_filterMap.mpr ⟨(rpc, node), isReached, by rw [agrees, replied]; rfl⟩
  obtain ⟨winner, wins⟩ := Ballot.exists_majority? (List.ne_nil_of_mem voted)
  obtain ⟨first, rest, -, founded, -⟩ := Ballot.winner_founded wins
  obtain rfl : reply = winner.1 :=
    Option.some.inj (replied.symm.trans (unanimous.reply_of_vote arranged founded))
  rw [ballotOf, Ballot.winner?, wins]
  rfl

/-- The winning reply is the one of the common replica. -/
theorem Unanimous.winner_eq (unanimous : cluster.Unanimous replica)
    (arranged : cluster.Arranged) (connected : cluster.Connected me)
    (storable : cluster.running ≠ [] →
      ∀ reply, (replica.serve request).1 = .ok reply → reply.Storable) :
    (cluster.ballotOf me request).winner?.elim (.error .noReplies) .ok =
      cluster.answerOf replica request := by
  have silent (nobody : ∀ vote, vote ∉ cluster.votes me request) :
      (cluster.ballotOf me request).winner?.elim (.error .noReplies) Except.ok =
        (.error .noReplies : Except Fault Reply) := by
    rw [ballotOf, List.eq_nil_iff_forall_not_mem.mpr nobody]
    rfl
  rw [answerOf]
  by_cases deserted : cluster.running = []
  · rw [if_pos deserted]
    refine silent fun vote isVote => ?_
    obtain ⟨node, isReached, -⟩ := voter_reached isVote
    simpa [deserted] using (arranged.of_reached isReached).1
  · rw [if_neg deserted]
    cases served : (replica.serve request).1 with
    | error overflow =>
        refine silent fun vote isVote => ?_
        have replied := unanimous.reply_of_vote arranged isVote
        simp [Replica.reply?, served, Except.toOption] at replied
    | ok reply =>
        have replied : replica.reply? request = some reply :=
          Replica.reply?_of_served served (storable deserted reply served)
        obtain ⟨node, isRunning⟩ := List.exists_mem_of_ne_nil _ deserted
        obtain ⟨rpc, isReached⟩ := connected.exists_reached arranged isRunning
        rw [unanimous.winner_of_reached arranged (List.ne_nil_of_mem isReached) replied]
        rfl

/-- Nodes that agree on a reply that equals itself give it, and nobody is told anything. -/
theorem Unanimous.invoke_eq (unanimous : cluster.Unanimous replica) (orderly : cluster.Orderly)
    (someone : cluster.reached me ≠ []) (storable : request.Storable) {reply : Reply}
    (served : (replica.serve request).1 = .ok reply) (legible : reply.Storable)
    (equal : (reply == reply) = true) :
    cluster.invoke me request = (.ok reply, cluster.asked me request) := by
  have prepared : (cluster.settledRound me .fingerprint).2 = cluster :=
    unanimous.prepared_eq orderly .listings
  have idle : cluster.planOf me request = [] := by
    refine unanimous.planOf_eq_nil orderly.toArranged (fun other given => ?_) fun other given => ?_
    · obtain rfl := Except.ok.inj (served.symm.trans given)
      exact legible
    · obtain rfl := Except.ok.inj (served.symm.trans given)
      exact equal
  rw [invoke, Operation.verify_snd, prepared]
  refine Prod.ext ?_ (orderly.settledRound_of_idle storable idle)
  rw [settledRound_fst, orderly.manned.ballotRound_eq storable,
    unanimous.winner_of_reached orderly.toArranged someone (Replica.reply?_of_served served legible)]
  rfl

end Cluster

end AuctionHouse
