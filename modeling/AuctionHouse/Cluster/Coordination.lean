import AuctionHouse.Cluster.Basic

/-!
# Coordination

Every operation of a client goes through a coordinator in two rounds.  The first one asks all
replicas for their fingerprints, only to find and repair those that have drifted; the second one
puts the request itself to all replicas.  In each round the most common reply wins and whoever
replied otherwise is told to copy the state of one that agreed with it.  Nobody waits for that: a
round is over when its commands are posted, and each node turns to them when it turns to its queue.

`Cluster.coordinate` is one round.  The operations here let everybody work off what has arrived
after each round.  That is one of the orders in which things can happen
(`Scene.Performs.of_perform`); `Scene` has all of them.
-/

namespace AuctionHouse.Cluster

/-- A member tells another one to copy the state of a third; the attempt is noted whether or not it
can be delivered. -/
def tellToCopy (cluster : Cluster) (teller target peer : Address) : Except Fault Unit × Cluster :=
  let noted := cluster.note (.told teller target peer)
  match noted.hub.sendSync teller target peer with
  | .ok hub => (.ok (), { noted with hub })
  | .error fault => (.error fault, noted)

/-- A coordinator gives the commands of a plan one by one. -/
def carryOut (me : Address) (cluster : Cluster) : List (Address × Address) → Cluster
  | [] => cluster
  | (target, peer) :: rest =>
    match cluster.tellToCopy me target peer with
    | (.ok (), told) => carryOut me told rest
    | (.error fault, noted) => carryOut me (noted.note (.undelivered target fault)) rest

/-- The address pairs that a coordinator has been told. -/
def bookOf (cluster : Cluster) (me : Address) : AddressBook :=
  ((cluster.coordinator? me).map Coordinator.book).getD .empty

/-- Who is to copy whose state after a ballot: nobody, if all replies were the same. -/
def repairs (cluster : Cluster) (me : Address) (ballot : Ballot Reply) :
    List (Address × Address) :=
  if ballot.distinctValues < 2 then [] else ballot.repairPlan (cluster.bookOf me)

/-- A coordinator has those told that voted against the majority, if there were any. -/
def repair (cluster : Cluster) (me : Address) (ballot : Ballot Reply) : Cluster :=
  carryOut me cluster (cluster.repairs me ballot)

/-- One round: the winning reply, and the cluster after the commands have been given but not yet
carried out. -/
def ballotRound (cluster : Cluster) (me : Address) (request : Request) : Ballot Reply × Cluster :=
  let (replies, after) := cluster.callAll me request
  let ballot := Ballot.tally (Ballot.inViewOrder after.hub.rpcView replies)
  (ballot, after.repair me ballot)

/-- What a coordinator makes of one round: the winning reply, if anybody replied. -/
def coordinate (cluster : Cluster) (me : Address) (request : Request) :
    Except Fault Reply × Cluster :=
  let (ballot, after) := cluster.ballotRound me request
  (match ballot.winner? with
    | some reply => .ok reply
    | none => .error .noReplies,
    after)

/-- One round, after which everybody works off what has arrived before anything else happens. -/
def settledRound (cluster : Cluster) (me : Address) (request : Request) :
    Except Fault Reply × Cluster :=
  let (reply, after) := cluster.coordinate me request
  (reply, after.settle)

/-- A fingerprint round; the winning fingerprint, if anybody replied with one. -/
def verify (cluster : Cluster) (me : Address) : Option Fingerprint × Cluster :=
  match cluster.settledRound me .fingerprint with
  | (.ok (.fingerprint value), after) => (some value, after)
  | (_, after) => (none, after)

/-- Both rounds of an operation. -/
def invoke (cluster : Cluster) (me : Address) (request : Request) : Except Fault Reply × Cluster :=
  (cluster.verify me).2.settledRound me request

/-- Opens an auction. -/
def createAuction (cluster : Cluster) (me : Address) (owner : String) (startPrice : Price)
    (description : String) (minPrice : Price) : Except Fault AuctionId × Cluster :=
  let (reply, after) :=
    cluster.invoke me (.addAuction (.unbid owner startPrice description minPrice))
  (match reply with
    | .ok (.added (some id)) => .ok id
    | .ok (.added none) => .error .capacityExhausted
    | .ok other => .error (.unexpectedReply other)
    | .error fault => .error fault,
    after)

/-- Closes an auction on behalf of its owner. -/
def closeAuction (cluster : Cluster) (me : Address) (owner : String) (id : AuctionId) :
    Except Fault CloseOutcome × Cluster :=
  let (reply, after) := cluster.invoke me (.removeAuction owner id)
  (match reply with
    | .ok (.removed (some auction)) => .ok auction.conclude
    | .ok (.removed none) => .ok (.notPermittedOrAbsent id)
    | .ok other => .error (.unexpectedReply other)
    | .error fault => .error fault,
    after)

/-- Bids on behalf of a user, whose address is the one on record. -/
def placeBid (cluster : Cluster) (me : Address) (id : AuctionId) (amount : Price)
    (bidder : String) : Except Fault BidOutcome × Cluster :=
  let email := cluster.accounts.emailOrPlaceholder bidder
  let (reply, after) := cluster.invoke me (.placeBid id amount bidder email)
  (match reply with
    | .ok (.bid outcome) => .ok outcome
    | .ok other => .error (.unexpectedReply other)
    | .error fault => .error fault,
    after)

/-- Shows the table of auctions. -/
def listings (cluster : Cluster) (me : Address) : Except Fault String × Cluster :=
  let (reply, after) := cluster.invoke me .listings
  (match reply with
    | .ok (.listings text) => .ok text
    | .ok other => .error (.unexpectedReply other)
    | .error fault => .error fault,
    after)

/-- The multicast address that a coordinator has been told for an RPC address. -/
def correlate? (cluster : Cluster) (me rpc : Address) : Option Address :=
  (cluster.bookOf me).find? rpc

end AuctionHouse.Cluster
