import AuctionHouse.Cluster.Coordination

/-!
# Clients

What a client can do through a session.  A seller opens auctions, at prices that are at least zero,
and closes them; a bidder bids and looks at the table; both only in the name of the session's user.
Each such operation counts as a use of the session, even if nobody finds the session any more.
-/

namespace AuctionHouse

/-- A session in the hands of a client. -/
structure Client where
  /-- The coordinator that the session is with. -/
  coordinator : Address
  /-- The session as it was when the client got it. -/
  session : Session

namespace Cluster

/-- The sessions of a coordinator. -/
def sessionsOf (cluster : Cluster) (me : Address) : SessionStore :=
  ((cluster.coordinator? me).map Coordinator.sessions).getD .empty

/-- Changes the sessions of a coordinator. -/
def onSessions {result : Type} (cluster : Cluster) (me : Address)
    (change : SessionStore → result × SessionStore) : result × Cluster :=
  let (answer, sessions) := change (cluster.sessionsOf me)
  (answer, cluster.modifyCoordinator me fun coordinator => { coordinator with sessions })

/-- Opens a session with a coordinator, or finds the one that is open. -/
def signIn (cluster : Cluster) (me : Address) (kind : SessionKind) (user : String) (now : Nat) :
    Client × Cluster :=
  let (session, after) := cluster.onSessions me fun sessions => sessions.enter kind user now
  (⟨me, session⟩, after)

/-- Notes that a client is active. -/
def touch (cluster : Cluster) (client : Client) (now : Nat) : Cluster :=
  cluster.modifyCoordinator client.coordinator fun coordinator =>
    { coordinator with sessions := coordinator.sessions.touch client.session.serial now }

/-- A seller opens an auction; prices below zero count as zero. -/
def sellerCreate (cluster : Cluster) (client : Client) (now : Nat) (startPrice : Price)
    (description : String) (minPrice : Price) : Except Fault AuctionId × Cluster :=
  (cluster.touch client now).createAuction client.coordinator client.session.user
    startPrice.atLeastZero description minPrice.atLeastZero

/-- A seller closes an auction. -/
def sellerClose (cluster : Cluster) (client : Client) (now : Nat) (id : AuctionId) :
    Except Fault CloseOutcome × Cluster :=
  (cluster.touch client now).closeAuction client.coordinator client.session.user id

/-- A bidder bids. -/
def bidderBid (cluster : Cluster) (client : Client) (now : Nat) (id : AuctionId)
    (amount : Price) : Except Fault BidOutcome × Cluster :=
  (cluster.touch client now).placeBid client.coordinator id amount client.session.user

/-- A bidder looks at the table. -/
def bidderListings (cluster : Cluster) (client : Client) (now : Nat) :
    Except Fault String × Cluster :=
  (cluster.touch client now).listings client.coordinator

end Cluster

end AuctionHouse
