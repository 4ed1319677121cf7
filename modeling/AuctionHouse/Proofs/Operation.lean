import AuctionHouse.Proofs.Round

/-!
# Operations of a coordinator

Every operation amounts to one request, and its outcome is what the winning reply to that request
amounts to.  All but the fingerprint round are preceded by a fingerprint round.  So what an
operation would give on a single replica is known as well: there the replica's own reply wins.
-/

namespace AuctionHouse

/-- What a coordinator can be asked to do. -/
inductive Operation where
  /-- To open an auction. -/
  | create (owner : String) (startPrice : Price) (description : String) (minPrice : Price)
  /-- To close an auction. -/
  | close (owner : String) (id : AuctionId)
  /-- To bid. -/
  | bid (id : AuctionId) (amount : Price) (bidder : String)
  /-- To show the table of auctions. -/
  | listings
  /-- To compare fingerprints and repair who has drifted. -/
  | verify

/-- What an operation gives. -/
inductive Outcome where
  /-- The number of the new auction. -/
  | created (result : Except Fault AuctionId)
  /-- What came of closing. -/
  | closed (result : Except Fault CloseOutcome)
  /-- What came of the bid. -/
  | bid (result : Except Fault BidOutcome)
  /-- The table. -/
  | listed (result : Except Fault String)
  /-- The fingerprint of the majority. -/
  | verified (fingerprint : Option Fingerprint)

/-- Outcomes of closing agree if they are equal as the program compares them, by the numbers; all
other ones agree if they are the same. -/
def Outcome.Agrees : Outcome → Outcome → Prop
  | .closed (.ok left), .closed (.ok right) => (left == right) = true
  | left, right => left = right

namespace Operation

/-- The request of an operation; the address of a bidder is the one on record. -/
def request (accounts : Accounts) : Operation → Request
  | .create owner startPrice description minPrice =>
    .addAuction (.unbid owner startPrice description minPrice)
  | .close owner id => .removeAuction owner id
  | .bid id amount bidder => .placeBid id amount bidder (accounts.emailOrPlaceholder bidder)
  | .listings => .listings
  | .verify => .fingerprint

theorem eq_listings {operation : Operation} {accounts : Accounts}
    (isTable : operation.request accounts = .listings) : operation = .listings := by
  cases operation with
  | listings => rfl
  | _ => simp [request] at isTable

/-- What the winning reply to the request of an operation amounts to. -/
def outcome (operation : Operation) (reply : Except Fault Reply) : Outcome :=
  match operation with
  | .create _ _ _ _ =>
    .created (reply.bind fun
      | .added (some id) => .ok id
      | .added none => .error .capacityExhausted
      | other => .error (.unexpectedReply other))
  | .close _ id =>
    .closed (reply.bind fun
      | .removed (some auction) => .ok auction.conclude
      | .removed none => .ok (.notPermittedOrAbsent id)
      | other => .error (.unexpectedReply other))
  | .bid _ _ _ =>
    .bid (reply.bind fun
      | .bid outcome => .ok outcome
      | other => .error (.unexpectedReply other))
  | .listings =>
    .listed (reply.bind fun
      | .listings text => .ok text
      | other => .error (.unexpectedReply other))
  | .verify =>
    .verified (match reply with
      | .ok (.fingerprint value) => some value
      | _ => none)

/-- A coordinator does what it is asked to do. -/
def perform (cluster : Cluster) (me : Address) : Operation → Outcome × Cluster
  | .create owner startPrice description minPrice =>
    let (result, after) := cluster.createAuction me owner startPrice description minPrice
    (.created result, after)
  | .close owner id =>
    let (result, after) := cluster.closeAuction me owner id
    (.closed result, after)
  | .bid id amount bidder =>
    let (result, after) := cluster.placeBid me id amount bidder
    (.bid result, after)
  | .listings =>
    let (result, after) := cluster.listings me
    (.listed result, after)
  | .verify =>
    let (fingerprint, after) := cluster.verify me
    (.verified fingerprint, after)

/-- The cluster in which the request of an operation goes around. -/
def prepared (cluster : Cluster) (me : Address) : Operation → Cluster
  | .verify => cluster
  | _ => (cluster.settledRound me .fingerprint).2

theorem verify_snd (cluster : Cluster) (me : Address) :
    (cluster.verify me).2 = (cluster.settledRound me .fingerprint).2 := by
  rw [Cluster.verify]
  obtain ⟨reply, after⟩ := cluster.settledRound me .fingerprint
  cases reply with
  | error fault => rfl
  | ok value => cases value <;> rfl

private theorem invoke_eq (cluster : Cluster) (me : Address) (request : Request) :
    cluster.invoke me request =
      (cluster.settledRound me .fingerprint).2.settledRound me request := by
  rw [Cluster.invoke, verify_snd]

/-- An operation is the round of its request, behind a fingerprint round unless it is one. -/
theorem perform_eq (operation : Operation) (cluster : Cluster) (me : Address)
    {reply : Except Fault Reply} {after : Cluster}
    (round : (operation.prepared cluster me).settledRound me (operation.request cluster.accounts) =
      (reply, after)) :
    operation.perform cluster me = (operation.outcome reply, after) := by
  cases operation with
  | create owner startPrice description minPrice =>
      have invoked :
          cluster.invoke me (.addAuction (.unbid owner startPrice description minPrice)) =
            (reply, after) :=
        (invoke_eq _ _ _).trans round
      rw [perform, Cluster.createAuction, invoked]
      cases reply with
      | error fault => rfl
      | ok value =>
          cases value with
          | added id => cases id <;> rfl
          | _ => rfl
  | close owner id =>
      have invoked : cluster.invoke me (.removeAuction owner id) = (reply, after) :=
        (invoke_eq _ _ _).trans round
      rw [perform, Cluster.closeAuction, invoked]
      cases reply with
      | error fault => rfl
      | ok value =>
          cases value with
          | removed auction => cases auction <;> rfl
          | _ => rfl
  | bid id amount bidder =>
      have invoked : cluster.invoke me
          (.placeBid id amount bidder (cluster.accounts.emailOrPlaceholder bidder)) =
          (reply, after) := (invoke_eq _ _ _).trans round
      rw [perform, Cluster.placeBid]
      simp only [invoked]
      cases reply with
      | error fault => rfl
      | ok value => cases value <;> rfl
  | listings =>
      have invoked : cluster.invoke me .listings = (reply, after) := (invoke_eq _ _ _).trans round
      rw [perform, Cluster.listings, invoked]
      cases reply with
      | error fault => rfl
      | ok value => cases value <;> rfl
  | verify =>
      have coordinated : cluster.settledRound me .fingerprint = (reply, after) := round
      rw [perform, Cluster.verify, coordinated]
      cases reply with
      | error fault => rfl
      | ok value => cases value <;> rfl

/-- Before the request of an operation goes around nothing has changed, or a fingerprint round has
been. -/
theorem prepared_eq (operation : Operation) {cluster : Cluster} {me : Address}
    (orderly : cluster.Orderly) (truthful : cluster.Truthful me) :
    ∃ replica more, operation.prepared cluster me = cluster.revise replica more ∧
      (replica = Node.replica ∨ replica = cluster.afterRound me .fingerprint) := by
  have storable : Request.fingerprint.Storable := trivial
  obtain ⟨more, -, result⟩ := orderly.settledRound_eq truthful storable
  have behind : (cluster.settledRound me .fingerprint).2 =
      cluster.revise (cluster.afterRound me .fingerprint) more := congrArg Prod.snd result
  cases operation with
  | verify => exact ⟨Node.replica, [], (Cluster.revise_self fun _ _ => rfl).symm, .inl rfl⟩
  | _ => exact ⟨_, more, behind, .inr rfl⟩

end Operation

namespace Cluster

theorem perform_create (cluster : Cluster) (me : Address) (owner description : String)
    (startPrice minPrice : Price) :
    ((Operation.create owner startPrice description minPrice).perform cluster me).1 =
      .created (cluster.createAuction me owner startPrice description minPrice).1 := by
  rw [Operation.perform]

theorem perform_close (cluster : Cluster) (me : Address) (owner : String)
    (id : AuctionId) :
    ((Operation.close owner id).perform cluster me).1 =
      .closed (cluster.closeAuction me owner id).1 := by
  rw [Operation.perform]

end Cluster

end AuctionHouse
