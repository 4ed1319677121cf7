import AuctionHouse.Proofs.Engaged
import AuctionHouse.Proofs.MajorityMasking
import AuctionHouse.Proofs.Refusals
import AuctionHouse.Proofs.Steadiness

/-!
# What can go wrong for a client

Where all members of the RPC group are nodes, an operation fails in two ways only: nobody replies,
or there is no free number for a new auction.  Every reply of a node belongs to its request and
arrives as it was given, and as soon as there is any reply one of them wins.  So nobody replies only
if nobody is reached who can serve the request, and a result is always what some node replied.

Nothing is assumed about the states of the nodes but that their texts can travel, nor about what is
under way: nodes may copy states at any time, and the repairs of the fingerprint round that precedes
the request need not be done when it goes around.  So what counts is the state in which the request
finds a node.  And nobody but nodes is in the RPC group of any cluster that nodes and coordinators
make up (`Course.manned`).
-/

namespace AuctionHouse

/-- All texts of a state, its table included, are short enough to travel. -/
structure Snapshot.Legible (snapshot : Snapshot) : Prop where
  texts : snapshot.Storable
  table : Text.Storable (Listing.text snapshot.auctions.rows)

theorem Snapshot.legible_of_empty {snapshot : Snapshot} (empty : snapshot.auctions = .empty) :
    snapshot.Legible where
  texts := by
    intro row member
    rw [empty] at member
    contradiction
  table := by
    rw [empty]
    decide

/-- The texts that a request needs of the states it finds: all of them, and the table if it asks for
the table. -/
def Snapshot.LegibleFor (request : Request) (snapshot : Snapshot) : Prop :=
  snapshot.Storable ∧ (request = .listings → Text.Storable (Listing.text snapshot.auctions.rows))

theorem Snapshot.Legible.legibleFor {snapshot : Snapshot} (legible : snapshot.Legible)
    (request : Request) : snapshot.LegibleFor request :=
  ⟨legible.texts, fun _ => legible.table⟩

namespace Replica

variable {replica : Replica} {request : Request}

/-- What a replica replies arrives, unless it cannot serve the request. -/
theorem reply?_of_legible (legible : replica.snapshot.LegibleFor request) :
    replica.reply? request = (replica.serve request).1.toOption := by
  cases served : (replica.serve request).1 with
  | error overflow =>
      rw [reply?, served]
      rfl
  | ok reply => exact reply?_of_served served (storable_reply legible.1 legible.2 served)

/-- Serving a request leaves no state in which the request could not be served. -/
theorem legibleFor_serve (storable : request.Storable)
    (legible : replica.snapshot.LegibleFor request) :
    (replica.serve request).2.snapshot.LegibleFor request := by
  refine ⟨storable_serve legible.1 storable, fun isTable => ?_⟩
  subst isTable
  exact legible.2 rfl

end Replica

/-! ## The winner -/

namespace Ballot

variable {value : Type} [BEq value]

/-- Some value wins as soon as there is any vote. -/
theorem winner?_eq_none_iff {votes : List (Address × value)} :
    (tally votes).winner? = none ↔ votes = [] := by
  constructor
  · intro nobody
    by_contra nonempty
    obtain ⟨winner, wins⟩ := exists_majority? nonempty
    rw [winner?, wins] at nobody
    contradiction
  · rintro rfl
    rfl

/-- What wins has been voted for. -/
theorem vote_of_winner? {votes : List (Address × value)} {winner : value}
    (wins : (tally votes).winner? = some winner) : ∃ voter, (voter, winner) ∈ votes := by
  obtain ⟨entry, majority, rfl⟩ := Option.map_eq_some_iff.mp wins
  obtain ⟨founder, -, -, founded, -⟩ := winner_founded majority
  exact ⟨founder, founded⟩

end Ballot

/-! ## What nodes hold while others listen -/

namespace Scene

open Cluster

variable {me : Address} {request : Request} {scene after : Scene} {holds : Snapshot → Prop}

/-- All states in a scene have a property: those that nodes hold or members hand over, and those
that have been fetched. -/
structure Every (scene : Scene) (holds : Snapshot → Prop) : Prop where
  cluster : scene.cluster.Every holds
  fetched : ∀ address snapshot, scene.fetched address = some snapshot → holds snapshot

theorem Every.mono {weaker : Snapshot → Prop} (every : scene.Every holds)
    (implies : ∀ snapshot, holds snapshot → weaker snapshot) : scene.Every weaker where
  cluster := {
    nodes := fun node listed => implies _ (every.cluster.nodes node listed)
    sources := fun snapshot handed => implies _ (every.cluster.sources snapshot handed)
    handlers := every.cluster.handlers }
  fetched := fun address snapshot held => implies _ (every.fetched address snapshot held)

section Round

variable (legible : ∀ snapshot, holds snapshot → snapshot.Storable)
include legible

/-- Listeners copy states that are there. -/
theorem Every.listens (every : scene.Every holds) (listens : scene.Listens after) :
    after.Every holds := by
  have requeued {next : Cluster} (configured : next.configuration = scene.cluster.configuration)
      (hub : ∃ queue, next.hub = scene.cluster.hub.withQueues queue)
      (nodes : next.nodes = scene.cluster.nodes) : next.Every holds :=
    (every.cluster.refilled configured hub nodes).every every.cluster
  cases listens with
  | note listed waiting => exact ⟨requeued rfl ⟨_, rfl⟩ rfl, every.fetched⟩
  | pass isRunning idle waiting unheard => exact ⟨requeued rfl ⟨_, rfl⟩ rfl, every.fetched⟩
  | @fetch node event rest peer snapshot isRunning idle waiting told handed =>
      refine ⟨requeued rfl ⟨_, rfl⟩ rfl, fun address held isHeld => ?_⟩
      by_cases same : address = node.address
      · rw [same] at isHeld
        simp only [Function.update_self, Option.some.injEq] at isHeld
        exact isHeld ▸ every.cluster.of_fetch legible handed
      · simp only [Function.update_of_ne same] at isHeld
        exact every.fetched address held isHeld
  | miss isRunning idle waiting told refused => exact ⟨requeued rfl ⟨_, rfl⟩ rfl, every.fetched⟩
  | @restore node snapshot listed held =>
      have given : ∀ other ∈ scene.cluster.nodes, holds (other.replica.restore snapshot).snapshot :=
        fun _ _ => every.fetched _ snapshot held
      refine ⟨(every.cluster.modifyNode node.address given).every every.cluster,
        fun address later isHeld => ?_⟩
      by_cases same : address = node.address
      · rw [same] at isHeld
        simp at isHeld
      · simp only [Function.update_of_ne same] at isHeld
        exact every.fetched address later isHeld

/-- A round keeps a property of all states that serving its request keeps, and so whoever was asked
was asked while all states had it. -/
theorem Every.round (every : scene.Every holds) (storable : request.Storable)
    (serves : ∀ replica : Replica, holds replica.snapshot →
      holds (replica.serve request).2.snapshot)
    {log : List Service} {ballot : Ballot Reply}
    (round : Round me request scene log ballot after) :
    after.Every holds ∧ ∀ service ∈ log, service.found.Every holds := by
  obtain ⟨gathered, replies, fansOut, -, -, tells⟩ := round.of_storable storable
  obtain ⟨asked, found⟩ := fansOut.keep (fun later => later.Every holds)
    (fun every listens => every.listens legible listens)
    (fun service _ every =>
      ⟨(every.cluster.answer serves service.answerer).every every.cluster, every.fetched⟩) every
  refine ⟨?_, fun service listed => (found service listed).2⟩
  exact tells.keep (fun later => later.Every holds)
    (fun every listens => every.listens legible listens)
    (fun step _ every =>
      ⟨(every.cluster.carryOut me [step]).every every.cluster, every.fetched⟩) asked

end Round

/-! ## Who is asked -/

/-- Where all members of the RPC group are nodes a request finds the replica of a node. -/
theorem Service.exists_replica? {service : Service} (manned : scene.cluster.Manned)
    (asked : (service.rpc, service.answerer) ∈ scene.cluster.hub.audience me)
    (steady : scene.cluster.Steady service.found.cluster) :
    ∃ node ∈ service.found.cluster.nodes, service.replica? = some node.replica := by
  rw [manned.audience_eq] at asked
  obtain ⟨entry, isReached, same⟩ := List.mem_map.mp asked
  obtain ⟨-, answers⟩ := Prod.mk.inj same
  have present := node?_eq_some manned.nodes (manned.of_reached isReached).1
  have still := steady.node?_map Node.address (fun _ _ => rfl) entry.2.address
  rw [present, Option.map_some] at still
  obtain ⟨node, found, -⟩ := Option.map_eq_some_iff.mp still
  refine ⟨node, (mem_nodes_of_node? found).1, ?_⟩
  rw [Service.replica?, ← answers]
  dsimp only
  rw [found, Option.map_some]

section Winner

variable {log : List Service} {ballot : Ballot Reply} (manned : scene.cluster.Manned)
  (legible : scene.Every (Snapshot.LegibleFor request)) (storable : request.Storable)
  (round : Round me request scene log ballot after)
include manned legible storable round

/-- Whoever is asked is a node that replies if it can serve the request. -/
theorem Round.exists_replica? {service : Service} (asked : service ∈ log) :
    ∃ replica, service.replica? = some replica ∧
      service.vote? request =
        (replica.serve request).1.toOption.map fun reply => (service.rpc, reply) := by
  obtain ⟨-, found⟩ := legible.round (fun _ legible => legible.1) storable
    (fun _ => Replica.legibleFor_serve storable) round
  obtain ⟨gathered, replies, fansOut, -⟩ := round.of_storable storable
  obtain ⟨isAsked, steady⟩ := fansOut.steady.2 service asked
  obtain ⟨node, listed, held⟩ := service.exists_replica? manned isAsked steady
  have readable := (found service asked).cluster.nodes node listed
  refine ⟨node.replica, held, ?_⟩
  rw [Service.vote?_eq held, Replica.reply?_of_legible readable]

/-- No reply wins if nobody who is asked can serve the request, and only then. -/
theorem Round.nobody_wins_iff :
    ballot.winner? = none ↔ ∀ service ∈ log, ∃ replica overflow,
      service.replica? = some replica ∧ (replica.serve request).1 = .error overflow := by
  obtain ⟨gathered, replies, -, arrived, rfl, -⟩ := round.of_storable storable
  have counted : (Ballot.inViewOrder gathered.cluster.hub.rpcView replies).Perm
      (log.filterMap fun service => service.vote? request) := (sortByRank_perm _ _).trans arrived
  rw [Ballot.winner?_eq_none_iff, ← List.length_eq_zero_iff, counted.length_eq,
    List.length_eq_zero_iff, List.filterMap_eq_nil_iff]
  refine forall₂_congr fun service asked => ?_
  obtain ⟨replica, held, vote⟩ := round.exists_replica? manned legible storable asked
  rw [vote, held]
  cases served : (replica.serve request).1 with
  | error overflow => exact ⟨fun _ => ⟨replica, overflow, rfl, served⟩, fun _ => rfl⟩
  | ok reply => simp [Except.toOption, served]

/-- The reply that wins was given by a node that was asked. -/
theorem Round.served_of_winner {reply : Reply} (wins : ballot.winner? = some reply) :
    ∃ service ∈ log, ∃ replica,
      service.replica? = some replica ∧ (replica.serve request).1 = .ok reply := by
  obtain ⟨gathered, replies, -, arrived, rfl, -⟩ := round.of_storable storable
  obtain ⟨voter, voted⟩ := Ballot.vote_of_winner? wins
  have gave := ((sortByRank_perm _ _).trans arrived).mem_iff.mp voted
  obtain ⟨service, asked, given⟩ := List.mem_filterMap.mp gave
  obtain ⟨replica, held, vote⟩ := round.exists_replica? manned legible storable asked
  refine ⟨service, asked, replica, held, ?_⟩
  rw [vote] at given
  cases served : (replica.serve request).1 with
  | error overflow => simp [Except.toOption, served] at given
  | ok present =>
      simp only [served, Except.toOption, Option.map_some, Option.some.injEq,
        Prod.mk.injEq] at given
      exact congrArg Except.ok given.2

end Winner

end Scene

/-! ## Operations -/

/-- What went wrong, if anything did. -/
def Outcome.fault? : Outcome → Option Fault
  | .created (.error fault) | .closed (.error fault) | .bid (.error fault)
  | .listed (.error fault) => some fault
  | .created (.ok _) | .closed (.ok _) | .bid (.ok _) | .listed (.ok _) | .verified _ => none

theorem Operation.fault?_of_error {operation : Operation} (asks : operation ≠ .verify)
    (fault : Fault) : (operation.outcome (.error fault)).fault? = some fault := by
  cases operation with
  | verify => contradiction
  | create | close | bid | listings => rfl

/-- A reply that belongs to the request is a result, unless it says that there was no number. -/
theorem Operation.fault?_of_ok (operation : Operation) (accounts : Accounts) {reply : Reply}
    (kind : reply.kind = (operation.request accounts).kind) :
    (operation.outcome (.ok reply)).fault? =
      if reply = .added none then some .capacityExhausted else none := by
  cases operation with
  | create owner startPrice description minPrice =>
      cases reply with
      | added id => cases id <;> rfl
      | _ => contradiction
  | close owner id =>
      cases reply with
      | removed auction => cases auction <;> rfl
      | _ => contradiction
  | bid id amount bidder =>
      cases reply with
      | bid outcome => rfl
      | _ => contradiction
  | listings =>
      cases reply with
      | listings text => rfl
      | _ => contradiction
  | verify =>
      cases reply with
      | fingerprint value => rfl
      | _ => contradiction

theorem Operation.eq_create {operation : Operation} {accounts : Accounts} {id : Option AuctionId}
    (kind : (Reply.added id).kind = (operation.request accounts).kind) :
    ∃ owner startPrice description minPrice,
      operation = .create owner startPrice description minPrice := by
  cases operation with
  | create owner startPrice description minPrice => exact ⟨_, _, _, _, rfl⟩
  | close | bid | listings | verify => contradiction

/-- What a client that opens, closes, bids or lists can be told to have gone wrong, whatever the
nodes hold and whatever they have yet to copy.  Each node that the coordinator reaches is asked
once.  Nobody replied: so it is if the coordinator is cut off, or if every node that it reaches fails
to serve the request in the state in which the request finds it.  Or there was no free number: so it
is if this is the reply that wins, which only happens to a new auction.  Anything else is a result,
and it is what the winning reply amounts to, which one of the nodes reached has given. -/
theorem Operation.faults_for_clients (operation : Operation) {scene before after : Scene}
    {me : Address} {log : List Scene.Service} {ballot : Ballot Reply}
    (asks : operation ≠ .verify) (manned : scene.cluster.Manned)
    (legible : scene.Every Snapshot.Legible)
    (storable : (operation.request scene.cluster.accounts).Storable)
    (performs : Scene.Performs me operation scene before log ballot after) :
    let request := operation.request scene.cluster.accounts
    let outcome := operation.gives ballot
    (log.map Scene.Service.rpc).Perm ((scene.cluster.reached me).map Prod.fst) ∧
      (∀ fault, outcome.fault? = some fault → fault = .noReplies ∨ fault = .capacityExhausted) ∧
      (outcome.fault? = some .noReplies ↔
        scene.cluster.hub.isReachable me = false ∨
          ∀ service ∈ log, ∃ replica overflow, service.replica? = some replica ∧
            (replica.serve request).1 = .error overflow) ∧
      (outcome.fault? = some .capacityExhausted ↔
        (∃ owner startPrice description minPrice,
          operation = .create owner startPrice description minPrice) ∧
          ballot.winner? = some (.added none)) ∧
      (outcome.fault? = none →
        ∃ reply, ballot.winner? = some reply ∧ outcome = operation.outcome (.ok reply) ∧
          ∃ service ∈ log, ∃ replica, service.replica? = some replica ∧
            (replica.serve request).1 = .ok reply) := by
  intro request outcome
  have texts : ∀ snapshot : Snapshot, snapshot.LegibleFor request → snapshot.Storable :=
    fun _ legible => legible.1
  have readable : before.Every (Snapshot.LegibleFor request) := by
    have begun := legible.mono fun _ legible => legible.legibleFor request
    cases performs.prepares with
    | verify => exact begun
    | check _ round meanwhile =>
        have nothing : Request.fingerprint.Storable := trivial
        exact meanwhile.keep (fun later => later.Every (Snapshot.LegibleFor request))
          (fun every listens => every.listens texts listens)
          (begun.round texts nothing (fun _ => id) round).1
  have steady := performs.prepares.steady
  have manned' := manned.steady steady
  obtain ⟨told, round, -⟩ := performs.round
  obtain ⟨gathered, replies, fansOut, -⟩ := round.of_storable storable
  have nobody := round.nobody_wins_iff manned' readable storable
  have asked := fansOut.rpcs_perm manned'
  have same := congrArg (List.map Prod.fst) (steady.reached me)
  rw [List.map_map, List.map_map] at same
  refine ⟨asked.trans (.of_eq same), ?_⟩
  have silent : ballot.winner? = none ↔ scene.cluster.hub.isReachable me = false ∨
      ∀ service ∈ log, ∃ replica overflow, service.replica? = some replica ∧
        (replica.serve request).1 = .error overflow := by
    refine nobody.trans ⟨.inr, fun either => either.elim (fun isolated => ?_) id⟩
    have empty : before.cluster.reached me = [] := by
      rw [Cluster.reached, steady.isReachable, isolated]
      rfl
    rw [empty] at asked
    have none : log = [] := List.map_eq_nil_iff.mp asked.eq_nil
    simp [none]
  rw [← silent]
  cases won : ballot.winner? with
  | none =>
      have fails : outcome.fault? = some .noReplies := by
        change (operation.outcome _).fault? = _
        rw [won]
        exact operation.fault?_of_error asks .noReplies
      simp [fails]
  | some reply =>
      obtain ⟨service, isAsked, replica, held, served⟩ :=
        round.served_of_winner manned' readable storable won
      have kind := Replica.kind_of_serve served
      have result : outcome = operation.outcome (.ok reply) := by
        change operation.outcome _ = _
        rw [won]
        rfl
      have fault := operation.fault?_of_ok scene.cluster.accounts kind
      rw [result, fault]
      by_cases exhausted : reply = .added none
      · subst exhausted
        rw [if_pos rfl]
        refine ⟨by simp, by simp, ⟨fun _ => ⟨operation.eq_create kind, rfl⟩, fun _ => rfl⟩, by simp⟩
      · rw [if_neg exhausted]
        refine ⟨by simp, by simp, ⟨by simp, fun both => ?_⟩, fun _ => ?_⟩
        · exact absurd (Option.some.inj both.2) exhausted
        · exact ⟨reply, rfl, rfl, service, isAsked, replica, held, served⟩

/-- A coordinator with three nodes: the first one has an auction, the second one has none, and the
third one is cut off. -/
def Cluster.uneven : Cluster :=
  (drifted.revise (fun node =>
    if node.address = ⟨.multicast, 2⟩ then node.replica.restore Replica.furnished.snapshot
    else node.replica) []).isolate ⟨.rpc, 7⟩

theorem Cluster.manned_uneven : uneven.Manned := by
  have orderly : uneven.Orderly := by
    refine Orderly.isolate (orderly_drifted.revise (fun node _ => ?_) []) ⟨.rpc, 7⟩
    split
    · exact Replica.probeLimit_restore _ _
    · rfl
  exact orderly.manned

theorem Replica.legible_furnished : furnished.snapshot.Legible where
  texts := by
    intro row member
    have rows : furnished.snapshot.auctions.rows = [(1000, .unbid "Ann" ⟨0⟩ "Lamp" ⟨0⟩)] := by
      decide +kernel
    rw [rows] at member
    obtain rfl := List.mem_singleton.mp member
    exact ⟨by decide, by decide, by decide, by decide⟩
  table := by decide +kernel

theorem Cluster.legible_uneven : uneven.Every Snapshot.Legible where
  nodes := by
    intro node listed
    obtain ⟨old, isNode, rfl⟩ := List.mem_map.mp listed
    have empty : ∀ node ∈ drifted.nodes, node.replica.snapshot.auctions = .empty := by decide
    dsimp only
    split
    · exact Replica.legible_furnished
    · exact Snapshot.legible_of_empty (empty old isNode)
  sources := by simp [uneven, isolate, drifted, Hub.isolate, Hub.sources]
  handlers := by simp [uneven, isolate, drifted, Hub.isolate]

/-- A bid whose weight cannot be added up. -/
def Operation.heavyBid : Operation := .bid 1000 ⟨0x43abc16d674ec800⟩ "Bob"

theorem Cluster.legible_still_uneven : (Scene.still uneven).Every Snapshot.Legible where
  cluster := legible_uneven
  fetched := by simp [Scene.still]

/-- The second node is told to copy the state of the first one, but turns to this only when the bid
has gone around. -/
theorem Operation.performs_heavyBid :
    ∃ before log ballot after,
      Scene.Performs ⟨.multicast, 1⟩ heavyBid (.still .uneven) before log ballot after ∧
        ballot.winner? = some (.bid .noSuchAuction) := by
  obtain ⟨log, performs⟩ := Scene.Performs.of_polled ⟨.multicast, 1⟩ heavyBid (.still .uneven)
  exact ⟨_, log, _, _, performs, by decide +kernel⟩

/-- So it replies that there is no such auction, and this is what the bidder is told. -/
theorem Operation.faults_for_clients_uneven :
    ∃ before log ballot after,
      Scene.Performs ⟨.multicast, 1⟩ heavyBid (.still .uneven) before log ballot after ∧
        heavyBid.gives ballot = .bid (.ok .noSuchAuction) ∧
        ∃ service ∈ log, ∃ replica, service.replica? = some replica ∧
          (replica.serve (heavyBid.request Cluster.uneven.accounts)).1 =
            .ok (.bid .noSuchAuction) := by
  obtain ⟨before, log, ballot, after, performs, wins⟩ := performs_heavyBid
  have gives : heavyBid.gives ballot = .bid (.ok .noSuchAuction) := by
    rw [Operation.gives, wins]
    rfl
  obtain ⟨-, -, -, -, result⟩ := heavyBid.faults_for_clients (by simp [heavyBid])
    Cluster.manned_uneven Cluster.legible_still_uneven ⟨by decide, by decide⟩ performs
  rw [gives] at result
  obtain ⟨reply, isWinner, -, service, asked, replica, held, served⟩ := result rfl
  obtain rfl := Option.some.inj (wins.symm.trans isWinner)
  exact ⟨before, log, ballot, after, performs, gives, service, asked, replica, held, served⟩

/-- It does not matter what the nodes that are reached can serve when the repairs of the fingerprint
round are done: the request does not wait for them. -/
theorem Operation.not_decided_by_repaired :
    ¬ ∀ (operation : Operation) (cluster : Cluster) (me : Address) (before after : Scene)
      (log : List Scene.Service) (ballot : Ballot Reply), operation ≠ .verify →
        cluster.Manned → (Scene.still cluster).Every Snapshot.Legible →
        (operation.request cluster.accounts).Storable →
        Scene.Performs me operation (.still cluster) before log ballot after →
        ((operation.gives ballot).fault? = some .noReplies ↔
          cluster.hub.isReachable me = false ∨
            ∀ entry ∈ (operation.prepared cluster me).reached me, ∃ overflow,
              (entry.2.replica.serve (operation.request cluster.accounts)).1 =
                .error overflow) := by
  intro decided
  obtain ⟨before, log, ballot, after, performs, wins⟩ := performs_heavyBid
  have fails : ∀ entry ∈ (heavyBid.prepared Cluster.uneven ⟨.multicast, 1⟩).reached
      ⟨.multicast, 1⟩, (entry.2.replica.serve (heavyBid.request Cluster.uneven.accounts)).1 =
        .error .weight := by
    decide +kernel
  have silent := (decided heavyBid _ _ _ _ _ _ (by simp [heavyBid]) Cluster.manned_uneven
    Cluster.legible_still_uneven ⟨by decide, by decide⟩ performs).mpr
      (.inr fun entry isReached => ⟨.weight, fails entry isReached⟩)
  have answered : (heavyBid.gives ballot).fault? = none := by
    rw [Operation.gives, wins]
    rfl
  exact absurd (answered.symm.trans silent) (by simp)

end AuctionHouse
