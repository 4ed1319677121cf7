import AuctionHouse.Proofs.Operation

/-!
# Who is told to copy a state

Every command to copy a state is noted when it is given, whether or not it can be delivered, so the
notices of a cluster tell who has been told what.  Working off queues carries commands out but gives
none, and asking for replies gives none either: the commands that an operation gives are exactly
those of the repair plans of its rounds, in the order of the plans.
-/

namespace AuctionHouse

/-- Whether a notice is about a command to copy a state. -/
def Notice.isCommand : Notice → Bool
  | .told _ _ _ => true
  | .undelivered _ _ | .failed _ _ _ => false

namespace Cluster

/-- The commands that have been given so far, oldest first. -/
def commands (cluster : Cluster) : List Notice := cluster.notices.filter Notice.isCommand

/-- The commands with which a coordinator has a plan carried out. -/
def commandsOf (me : Address) (plan : List (Address × Address)) : List Notice :=
  plan.map fun step => .told me step.1 step.2

theorem commands_note (cluster : Cluster) (notice : Notice) :
    (cluster.note notice).commands = cluster.commands ++ [notice].filter Notice.isCommand :=
  List.filter_append _ _

/-! ## What gives no commands -/

/-- Steps that give no command do not do so one after the other. -/
private theorem commands_foldl {element : Type} {step : Cluster → element → Cluster}
    (quiet : ∀ cluster one, (step cluster one).commands = cluster.commands)
    (elements : List element) (cluster : Cluster) :
    (elements.foldl step cluster).commands = cluster.commands := by
  induction elements generalizing cluster with
  | nil => rfl
  | cons head rest induction => rw [List.foldl_cons, induction, quiet]

theorem commands_obey (address : Address) (cluster : Cluster) (event : Event) :
    (obey address cluster event).commands = cluster.commands := by
  cases commanded : event.peer? with
  | none => rw [obey_of_none commanded]
  | some peer =>
      cases event with
      | multicastView view => simp [Event.peer?] at commanded
      | rpcView view => simp [Event.peer?] at commanded
      | message sender body =>
          cases body with
          | announce rpc multicast => simp [Event.peer?] at commanded
          | command command other =>
              cases command
              change (cluster.copyState address other).commands = _
              rw [copyState]
              split
              · rfl
              · rw [commands_note]
                exact List.append_nil _

theorem commands_track (cluster : Cluster) (address : Address) :
    (cluster.track address).commands = cluster.commands := rfl

theorem commands_work (cluster : Cluster) (address : Address) :
    (cluster.work address).commands = cluster.commands := by
  rw [work]
  split
  · rw [commands_foldl (commands_obey address)]
    rfl
  · rfl

theorem commands_settleIn (cluster : Cluster) (order : List Address) :
    (cluster.settleIn order).commands = cluster.commands := by
  rw [settleIn, commands_foldl commands_work, commands_foldl commands_track]

/-- Answering a request changes replicas, or what a guest has received. -/
theorem answer_frame (cluster : Cluster) (request : Request) (answerer : Answerer) :
    (cluster.answer request answerer).2.hub = cluster.hub ∧
      (cluster.answer request answerer).2.notices = cluster.notices ∧
      (cluster.answer request answerer).2.coordinators = cluster.coordinators := by
  cases answerer with
  | guest address rule => exact ⟨rfl, rfl, rfl⟩
  | node address =>
      rw [answer]
      split
      · exact ⟨rfl, rfl, rfl⟩
      · exact ⟨rfl, rfl, rfl⟩

theorem collect_cons_snd (request : Request) (head : Address × Answerer)
    (rest : List (Address × Answerer)) (cluster : Cluster) :
    (collect request (head :: rest) cluster).2 =
      (collect request rest (cluster.answer request head.2).2).2 := by
  obtain ⟨address, answerer⟩ := head
  simp only [collect]
  split
  · rfl
  · rfl

theorem collect_frame (request : Request) (asked : List (Address × Answerer))
    (cluster : Cluster) :
    (collect request asked cluster).2.hub = cluster.hub ∧
      (collect request asked cluster).2.notices = cluster.notices ∧
      (collect request asked cluster).2.coordinators = cluster.coordinators := by
  induction asked generalizing cluster with
  | nil => exact ⟨rfl, rfl, rfl⟩
  | cons head rest induction =>
      obtain ⟨hub, notices, coordinators⟩ := cluster.answer_frame request head.2
      obtain ⟨laterHub, later, laterCoordinators⟩ := induction (cluster.answer request head.2).2
      rw [collect_cons_snd]
      exact ⟨laterHub.trans hub, later.trans notices, laterCoordinators.trans coordinators⟩

/-- A request that goes around leaves the groups as they are. -/
theorem callAll_frame (cluster : Cluster) (me : Address) (request : Request) :
    (cluster.callAll me request).2.hub = cluster.hub ∧
      (cluster.callAll me request).2.notices = cluster.notices ∧
      (cluster.callAll me request).2.coordinators = cluster.coordinators := by
  rw [callAll]
  split
  · exact collect_frame _ _ cluster
  · exact ⟨rfl, rfl, rfl⟩

/-! ## What gives commands -/

/-- Telling somebody to copy a state gives one command, delivered or not. -/
theorem commands_tellToCopy (cluster : Cluster) (teller target peer : Address) :
    (cluster.tellToCopy teller target peer).2.commands =
      cluster.commands ++ commandsOf teller [(target, peer)] := by
  rw [tellToCopy]
  split
  · exact cluster.commands_note _
  · exact cluster.commands_note _

/-- A plan gives its commands one by one, those that cannot be delivered included. -/
theorem commands_carryOut (me : Address) (cluster : Cluster) (plan : List (Address × Address)) :
    (carryOut me cluster plan).commands = cluster.commands ++ commandsOf me plan := by
  induction plan generalizing cluster with
  | nil => exact (List.append_nil _).symm
  | cons head rest induction =>
      obtain ⟨target, peer⟩ := head
      have first := cluster.commands_tellToCopy me target peer
      have split : commandsOf me ((target, peer) :: rest) =
          commandsOf me [(target, peer)] ++ commandsOf me rest := rfl
      rw [carryOut, split, ← List.append_assoc, ← first]
      cases cluster.tellToCopy me target peer with
      | mk delivered told =>
          cases delivered with
          | ok _ => exact induction told
          | error fault =>
              have undelivered : (told.note (.undelivered target fault)).commands =
                  told.commands := by
                rw [commands_note]
                exact List.append_nil _
              refine (induction _).trans ?_
              rw [undelivered]

/-- A round gives the commands of its plan. -/
theorem commands_settledRound (cluster : Cluster) (me : Address) (request : Request) :
    (cluster.settledRound me request).2.commands =
      cluster.commands ++
        commandsOf me
          ((cluster.ballotRound me request).1.repairPlan (cluster.bookOf me)) := by
  obtain ⟨-, notices, coordinators⟩ := cluster.callAll_frame me request
  have book : (cluster.callAll me request).2.bookOf me = cluster.bookOf me := by
    rw [bookOf, coordinator?, coordinators]
    rfl
  have unfolded : (cluster.settledRound me request).2 =
      (cluster.ballotRound me request).2.settle := rfl
  have repaired : (cluster.ballotRound me request).2 =
      carryOut me (cluster.callAll me request).2
        ((cluster.ballotRound me request).1.repairPlan (cluster.bookOf me)) := by
    rw [← book]
    exact repair_eq _ _ _
  have asked : (cluster.callAll me request).2.commands = cluster.commands :=
    congrArg (List.filter Notice.isCommand) notices
  rw [unfolded, settle, commands_settleIn, repaired, commands_carryOut, asked]

theorem Orderly.commands_settledRound {cluster : Cluster} (orderly : cluster.Orderly) {me : Address}
    {request : Request} (storable : request.Storable) :
    (cluster.settledRound me request).2.commands =
      cluster.commands ++ commandsOf me (cluster.planOf me request) := by
  rw [Cluster.commands_settledRound, orderly.manned.ballotRound_eq storable]
  rfl

end Cluster

/-- An operation gives the commands of its own round behind those of the fingerprint round that
precedes it. -/
theorem Operation.commands_perform (operation : Operation) (cluster : Cluster) (me : Address) :
    (operation.perform cluster me).2.commands =
      ((operation.prepared cluster me).settledRound me
        (operation.request cluster.accounts)).2.commands := by
  have performed := operation.perform_eq cluster me
    (Prod.mk.eta (p := (operation.prepared cluster me).settledRound me
      (operation.request cluster.accounts))).symm
  rw [performed]

end AuctionHouse
