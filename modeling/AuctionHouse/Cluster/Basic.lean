import AuctionHouse.Accounts.Basic
import AuctionHouse.Ballot
import AuctionHouse.Group.Hub
import AuctionHouse.Session
import AuctionHouse.Settings

/-!
# Clusters

A cluster is a hub with the processes on it: nodes, each with a replica; coordinators, which front
them; and guests, members whose states and answers are given from outside.  This file holds what
they have in common: how a state is handed over, how a request goes around, and how events are
worked off.  `Cluster.settle` works off everything that has arrived: coordinators note addresses,
nodes carry out the commands to copy a state.
-/

namespace AuctionHouse

/-- What a member of the multicast group hands over. -/
inductive StateSource where
  /-- The state of the replica of the node with the member's address. -/
  | node
  /-- Always the same state. -/
  | fixed (snapshot : Snapshot)
  /-- Nothing, as long as anybody would wait. -/
  | silent

/-- How a member of the RPC group answers. -/
inductive Answerer where
  /-- By the replica of the node with this multicast address. -/
  | node (address : Address)
  /-- A guest by its own rule, which may leave requests unanswered. -/
  | guest (address : Address) (rule : Request.Kind → Option Reply)

/-- How far a node has come. -/
inductive NodePhase where
  /-- It is a member of the multicast group but answers no requests yet. -/
  | joining
  /-- It answers requests and obeys commands. -/
  | serving
  /-- It has left. -/
  | stopped
deriving DecidableEq

/-- A process that holds a replica. -/
structure Node where
  /-- Its multicast address. -/
  address : Address
  /-- Its replica. -/
  replica : Replica
  /-- How far it has come. -/
  phase : NodePhase

/-- A process that fronts the replicas. -/
structure Coordinator where
  /-- Its multicast address. -/
  address : Address
  /-- The address pairs that it has been told. -/
  book : AddressBook
  /-- The sessions of its clients. -/
  sessions : SessionStore

/-- What an operator is told about repairs. -/
inductive Notice where
  /-- One member told another one to copy the state of a third. -/
  | told (teller target peer : Address)
  /-- A coordinator could not deliver its command. -/
  | undelivered (target : Address) (fault : Fault)
  /-- A node could not copy the state that it was told to. -/
  | failed (target peer : Address) (fault : Fault)
deriving DecidableEq

/-- A hub with all processes on it. -/
structure Cluster where
  /-- What every process was told at its start. -/
  settings : Settings
  /-- The seed file, if the settings name one: its contents, if it is there. -/
  seed : Option (Option (List UInt8))
  /-- Where the addresses of bidders come from. -/
  accounts : Accounts
  /-- The two groups. -/
  hub : Hub StateSource Answerer
  /-- The nodes, those included that did not manage to start, in the order of joining. -/
  nodes : List Node
  /-- The coordinators in the order of attaching. -/
  coordinators : List Coordinator
  /-- Every request that a guest received, with the guest's multicast address, oldest first. -/
  received : List (Address × Request)
  /-- What was noted about repairs, oldest first. -/
  notices : List Notice

namespace Cluster

/-- A hub without processes. -/
def fresh (settings : Settings) (seed : Option (Option (List UInt8))) (accounts : Accounts) :
    Cluster :=
  { settings, seed, accounts, hub := .empty, nodes := [], coordinators := [], received := []
    notices := [] }

/-- The node with a multicast address. -/
def node? (cluster : Cluster) (address : Address) : Option Node :=
  cluster.nodes.find? fun node => decide (node.address = address)

/-- The coordinator with a multicast address. -/
def coordinator? (cluster : Cluster) (address : Address) : Option Coordinator :=
  cluster.coordinators.find? fun coordinator => decide (coordinator.address = address)

/-- Changes the node with a multicast address. -/
def modifyNode (cluster : Cluster) (address : Address) (change : Node → Node) : Cluster :=
  { cluster with
    nodes := cluster.nodes.map fun node => if node.address = address then change node else node }

/-- Changes the coordinator with a multicast address. -/
def modifyCoordinator (cluster : Cluster) (address : Address)
    (change : Coordinator → Coordinator) : Cluster :=
  { cluster with
    coordinators := cluster.coordinators.map fun coordinator =>
      if coordinator.address = address then change coordinator else coordinator }

/-- Replaces the replica of a node. -/
def setReplica (cluster : Cluster) (address : Address) (replica : Replica) : Cluster :=
  cluster.modifyNode address fun node => { node with replica }

/-- Adds a notice. -/
def note (cluster : Cluster) (notice : Notice) : Cluster :=
  { cluster with notices := cluster.notices ++ [notice] }

/-- The nodes that are serving, in the order of joining. -/
def running (cluster : Cluster) : List Node :=
  cluster.nodes.filter fun node => node.phase = .serving

/-- The state of one member as it reaches another one that asked for it. -/
def fetchSnapshot (cluster : Cluster) (asking giving : Address) : Except Fault Snapshot :=
  let carried (snapshot : Snapshot) : Except Fault Snapshot :=
    (Wire.transmit snapshot).mapError Fault.wire
  match cluster.hub.sourceOf asking giving with
  | .error fault => .error fault
  | .ok .silent => .error (.timeout giving)
  | .ok (.fixed snapshot) => carried snapshot
  | .ok .node =>
    match cluster.node? giving with
    | some node => carried node.replica.snapshot
    | none => .error (.timeout giving)

/-- What one member of the RPC group replies, and the cluster after it has worked on the request.  A
replica that cannot add up a weight does not reply. -/
def answer (cluster : Cluster) (request : Request) : Answerer → Option Reply × Cluster
  | .node address =>
    match cluster.node? address with
    | some node =>
      let (reply, replica) := node.replica.serve request
      (reply.toOption, cluster.setReplica address replica)
    | none => (none, cluster)
  | .guest address rule =>
    (rule request.kind, { cluster with received := cluster.received ++ [(address, request)] })

/-- Puts a request to each of some members and collects the replies as they reach the caller. -/
def collect (request : Request) :
    List (Address × Answerer) → Cluster → List (Address × Reply) × Cluster
  | [], cluster => ([], cluster)
  | (address, answerer) :: rest, cluster =>
    let (reply, after) := cluster.answer request answerer
    let (replies, done) := collect request rest after
    match reply.bind fun sent => (Wire.transmit sent).toOption with
    | some received => ((address, received) :: replies, done)
    | none => (replies, done)

/-- Puts a request to every member of the RPC group that the caller can reach. -/
def callAll (cluster : Cluster) (caller : Address) (request : Request) :
    List (Address × Reply) × Cluster :=
  match Wire.transmit request with
  | .ok received => collect received (cluster.hub.audience caller) cluster
  | .error _ => ([], cluster)

/-- Empties a member's queue and hands out what was in it. -/
def takeEvents (cluster : Cluster) (address : Address) : List Event × Cluster :=
  let (events, hub) := cluster.hub.take address
  (events, { cluster with hub })

/-- Hands out the requests that a guest received since it was last asked. -/
def takeRequests (cluster : Cluster) (guest : Address) : List Request × Cluster :=
  ((cluster.received.filter fun entry => entry.1 = guest).map Prod.snd,
    { cluster with received := cluster.received.filter fun entry => entry.1 ≠ guest })

/-- Hands out the notices since this was last asked. -/
def takeNotices (cluster : Cluster) : List Notice × Cluster :=
  (cluster.notices, { cluster with notices := [] })

/-- An address book after an event. -/
def bookAfter (book : AddressBook) : Event → AddressBook
  | .message _ (.announce rpc multicast) => book.insert rpc multicast
  | .rpcView view => book.restrict view
  | _ => book

/-- A coordinator notes what its queue says about addresses. -/
def track (cluster : Cluster) (address : Address) : Cluster :=
  let (events, after) := cluster.takeEvents address
  after.modifyCoordinator address fun coordinator =>
    { coordinator with book := events.foldl bookAfter coordinator.book }

/-- A node copies the state of a peer. -/
def copyState (cluster : Cluster) (address peer : Address) : Cluster :=
  match cluster.fetchSnapshot address peer with
  | .ok snapshot =>
    cluster.modifyNode address fun node => { node with replica := node.replica.restore snapshot }
  | .error fault => cluster.note (.failed address peer fault)

/-- A node does what an event asks it to do. -/
def obey (address : Address) (cluster : Cluster) : Event → Cluster
  | .message _ (.command .sync peer) => cluster.copyState address peer
  | _ => cluster

/-- A node works off its queue, if it is serving. -/
def work (cluster : Cluster) (address : Address) : Cluster :=
  match (cluster.node? address).map Node.phase with
  | some .serving =>
    let (events, after) := cluster.takeEvents address
    events.foldl (obey address) after
  | _ => cluster

/-- The coordinators and the nodes in the given order work off their queues. -/
def settleIn (cluster : Cluster) (order : List Address) : Cluster :=
  order.foldl work ((cluster.coordinators.map Coordinator.address).foldl track cluster)

/-- Everybody works off what has arrived. -/
def settle (cluster : Cluster) : Cluster := cluster.settleIn (cluster.nodes.map Node.address)

end Cluster

/-- The notice in words, if it is about something that did not work. -/
def Notice.failure? : Notice → Option String
  | .told _ _ _ => none
  | .undelivered target fault =>
    some ("could not send sync command to " ++ target.text ++ ": " ++ fault.message)
  | .failed target peer fault =>
    some ("replica " ++ target.text ++ " failed to sync with " ++ peer.text ++ ": " ++
      fault.message)

end AuctionHouse
