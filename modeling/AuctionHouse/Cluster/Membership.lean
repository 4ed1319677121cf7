import AuctionHouse.Cluster.Basic

/-!
# Membership

How processes come and go.  A node first joins the multicast group, then gets a state from the
oldest other member or, if there is none, from the seed file, and only then joins the RPC group and
announces its two addresses.  As long as the state cannot be had it tries again, and the group may
change between two attempts.  A node that fails to start stays in the multicast group.
-/

namespace AuctionHouse.Cluster

/-- A coordinator attaches. -/
def startCoordinator (cluster : Cluster) : Except Fault Address × Cluster :=
  match cluster.hub.attach? with
  | some (address, hub) =>
    let coordinator : Coordinator := { address, book := .empty, sessions := .empty }
    (.ok address,
      { cluster with hub, coordinators := cluster.coordinators ++ [coordinator] }.settle)
  | none => (.error .overflow, cluster)

/-- Where an attempt to get a state has led. -/
inductive Attempt where
  /-- The replica has its state. -/
  | ready (cluster : Cluster)
  /-- The state could not be had this time. -/
  | blocked (fault : Fault) (cluster : Cluster)
  /-- The seed file was of no use. -/
  | failed (fault : SeedFault) (cluster : Cluster)

/-- A joining node tries to get a state. -/
def attempt (cluster : Cluster) (me : Address) : Attempt :=
  match cluster.hub.multicastView.oldestOther? me with
  | some peer =>
    match cluster.fetchSnapshot me peer with
    | .ok snapshot =>
      .ready (cluster.modifyNode me fun node =>
        { node with replica := node.replica.restore snapshot })
    | .error fault => .blocked fault cluster
  | none =>
    match cluster.seed, cluster.node? me with
    | some contents, some node =>
      match node.replica.seedFile contents with
      | (.ok _, replica) => .ready (cluster.setReplica me replica)
      | (.error fault, replica) => .failed fault (cluster.setReplica me replica)
    | _, _ => .ready cluster

/-- Tries again and again; between two attempts the next of the given changes happens.  When they
are used up the last attempt stands. -/
def initialise (me : Address) (cluster : Cluster) : List (Cluster → Cluster) → Attempt
  | [] => cluster.attempt me
  | change :: rest =>
    match cluster.attempt me with
    | .blocked _ waiting => initialise me (change waiting) rest
    | ended => ended

/-- A node joins the multicast group with an empty replica. -/
def joinNode? (cluster : Cluster) : Option (Address × Cluster) :=
  cluster.hub.join? .node |>.map fun (address, hub) =>
    let replica := Replica.fresh cluster.settings.firstId cluster.settings.probeLimit
    let node : Node := { address, replica, phase := .joining }
    (address, { cluster with hub, nodes := cluster.nodes ++ [node] })

/-- A node that has its state joins the RPC group and announces itself. -/
def beginServing (cluster : Cluster) (me : Address) : Except Fault Address × Cluster :=
  match cluster.hub.joinRpc? me (.node me) with
  | none => (.error .overflow, cluster)
  | some (rpc, hub) =>
    match hub.announce me rpc with
    | .error fault => (.error fault, { cluster with hub })
    | .ok hub =>
      (.ok rpc, ({ cluster with hub }.modifyNode me fun node => { node with phase := .serving }))

/-- A node starts, while the given changes happen between its attempts to get a state.  The answer
is its two addresses. -/
def startNodeAmid (cluster : Cluster) (changes : List (Cluster → Cluster)) :
    Except Fault (Address × Address) × Cluster :=
  match cluster.joinNode? with
  | none => (.error .overflow, cluster)
  | some (me, joined) =>
    match initialise me joined changes with
    | .failed fault after => (.error (.seed fault), after.settle)
    | .blocked fault after => (.error fault, after.settle)
    | .ready ready =>
      let (rpc, after) := ready.beginServing me
      (rpc.map fun rpc => (me, rpc), after.settle)

/-- A node starts. -/
def startNode (cluster : Cluster) : Except Fault (Address × Address) × Cluster :=
  cluster.startNodeAmid []

/-- A process leaves both groups. -/
def leave (cluster : Cluster) (address : Address) : Cluster :=
  { cluster with hub := cluster.hub.leave address }.settle

/-- A node leaves and obeys no more commands. -/
def stopNode (cluster : Cluster) (address : Address) : Cluster :=
  (cluster.leave address).modifyNode address fun node => { node with phase := .stopped }

/-- Cuts an address off. -/
def isolate (cluster : Cluster) (address : Address) : Cluster :=
  { cluster with hub := cluster.hub.isolate address }

/-- Connects an address again. -/
def heal (cluster : Cluster) (address : Address) : Cluster :=
  { cluster with hub := cluster.hub.heal address }

/-- A guest joins the multicast group, or attaches if it has no state to hand over. -/
def startGuest (cluster : Cluster) (state : Option StateSource) : Except Fault Address × Cluster :=
  match (match state with
    | some source => cluster.hub.join? source
    | none => cluster.hub.attach?) with
  | some (address, hub) => (.ok address, { cluster with hub }.settle)
  | none => (.error .overflow, cluster)

/-- A guest joins the RPC group and answers by a rule. -/
def serveGuest (cluster : Cluster) (guest : Address) (rule : Request.Kind → Option Reply) :
    Except Fault Address × Cluster :=
  match cluster.hub.joinRpc? guest (.guest guest rule) with
  | some (rpc, hub) => (.ok rpc, { cluster with hub }.settle)
  | none => (.error .overflow, cluster)

/-- A guest posts a message. -/
def post (cluster : Cluster) (sender : Address) (receiver : Option Address) (body : Multicast) :
    Except Fault Unit × Cluster :=
  match cluster.hub.send sender receiver body with
  | .ok hub => (.ok (), { cluster with hub }.settle)
  | .error fault => (.error fault, cluster)

/-- Serves a request on one node only. -/
def serveLocally (cluster : Cluster) (node : Node) (request : Request) :
    Except Overflow Reply × Cluster :=
  let (reply, replica) := node.replica.serve request
  (reply, cluster.setReplica node.address replica)

/-- Replaces the state of one node only. -/
def restoreLocally (cluster : Cluster) (node : Node) (snapshot : Snapshot) : Cluster :=
  cluster.setReplica node.address (node.replica.restore snapshot)

end AuctionHouse.Cluster
