import AuctionHouse.Cluster.Client
import AuctionHouse.Cluster.Membership

/-!
# The demonstration

A complete run on a small cluster: one seller lists an item, one bidder bids on it twice, and the
auction is closed.  Then the last replica is cut off while the seller lists another item, connected
again, and brought up to date by a fingerprint round.  The run is told line by line; a fault ends
it, and a number of replicas for which there is no room keeps it from beginning.
-/

namespace AuctionHouse.Demo

/-- What is left behind by a run. -/
structure Report where
  /-- The exit code: zero if all went well. -/
  exitCode : Nat
  /-- The lines that were written. -/
  lines : List String
deriving DecidableEq

/-- A stretch of the run: it works on the cluster, may end in a fault, and tells lines. -/
abbrev Stretch (value : Type) := StateT Cluster (ExceptT Fault (StateM (List String))) value

/-- Tells one line. -/
def tell (line : String) : Stretch Unit :=
  modifyThe (List String) (· ++ [line])

/-- Tells what an operator wants to know. -/
def inform (text : String) : Stretch Unit := tell ("INFO " ++ text)

/-- Does something that cannot fail. -/
def change {value : Type} (operation : Cluster → value × Cluster) : Stretch value := do
  let (answer, after) := operation (← get)
  set after
  pure answer

/-- Does something that can fail. -/
def perform {value : Type} (operation : Cluster → Except Fault value × Cluster) :
    Stretch value := do
  match ← change operation with
  | .ok answer => pure answer
  | .error fault => throw fault

/-- The lines of a text. -/
def linesOf (text : String) : List String :=
  (Text.lines '\n' text.toList).map String.ofList

/-- The fingerprints of all nodes in the order of their start. -/
def fingerprints (cluster : Cluster) : String :=
  "[" ++ ", ".intercalate
    (cluster.nodes.map fun node => toString node.replica.fingerprint.toInt) ++ "]"

/-- The seller of the demonstration. -/
def seller : String := "alice"

/-- The bidder of the demonstration. -/
def bidder : String := "bob"

/-- Accounts for when no folder is given. -/
def standardAccounts : Accounts := .table [(bidder, "bob@example.com")]

/-- A whole number as a price. -/
def wholePrice (number : Nat) : Price := .ofRatio false number 1

/-- Lists another item while the last of the nodes is cut off, and connects it again. -/
def cutOff (me : Address) (client : Client) (victim : Address) : Stretch Unit := do
  modify (Cluster.isolate · victim)
  let id ← perform (Cluster.sellerCreate · client 0 (wholePrice 1) "lamp" (wholePrice 2))
  inform ("listed " ++ toString id.toNat ++ " while " ++ victim.text ++ " was cut off: " ++
    fingerprints (← get))
  modify (Cluster.heal · victim)
  let _ ← change (Cluster.verify · me)

/-- Starts so many nodes one after the other; the first fault ends it. -/
def startNodes : Nat → Stretch (List (Address × Address))
  | 0 => pure []
  | count + 1 => do
    let first ← perform Cluster.startNode
    let rest ← startNodes count
    pure (first :: rest)

/-- The seller lists an item, the bidder bids on it twice and looks at the table, and the seller
closes the auction. -/
def sale (alice bob : Client) : Stretch Unit := do
  let id ← perform (Cluster.sellerCreate · alice 0 (wholePrice 10) "item" (wholePrice 50))
  inform (seller ++ " listed auction " ++ toString id.toNat)
  inform ("bid of 40: " ++ (← perform (Cluster.bidderBid · bob 0 id (wholePrice 40))).name)
  inform ("bid of 5: " ++ (← perform (Cluster.bidderBid · bob 0 id (wholePrice 5))).name)
  let table ← perform (Cluster.bidderListings · bob 0)
  (linesOf table).forM tell
  let outcome ← perform (Cluster.sellerClose · alice 0 id)
  (linesOf ("INFO closing: " ++ outcome.text)).forM tell

/-- The last of several nodes is cut off for a while; a single one is left alone. -/
def outage (me : Address) (alice : Client) (nodes : List (Address × Address)) : Stretch Unit :=
  match nodes with
  | _ :: _ :: _ =>
    match nodes.getLast? with
    | some (_, victim) => cutOff me alice victim
    | none => pure ()
  | _ => pure ()

/-- The whole run on so many replicas. -/
def run (settings : Settings) (count : Nat) : Stretch Unit := do
  let me ← perform Cluster.startCoordinator
  let nodes ← startNodes count
  inform (toString count ++ " replicas up, rpc " ++ (← get).hub.rpcView.text)
  let alice ← change (Cluster.signIn · me .seller seller 0)
  let bob ← change (Cluster.signIn · me .bidder bidder 0)
  sale alice bob
  outage me alice nodes
  let evicted ← change (Cluster.onSessions · me fun sessions =>
    sessions.evictIdle 0 settings.maxIdle)
  inform ("evicted " ++ toString evicted ++ " idle sessions")

/-- How many replicas the arguments ask for: three if there are none. -/
def replicaCount? : List String → Option Nat
  | [] => some 3
  | first :: _ => (Text.readNatural? (UInt64.size - 1) first.toList).filter fun count => 0 < count

/-- The most replicas there can be: room for the handles of all of them, forty bytes each, is set
aside before the first one starts, and no more than 2 ^ 63 - 1 bytes can be asked for. -/
def mostReplicas : Nat := (UInt64.size / 2 - 1) / 40

/-- The report of a run that broke off without a word. -/
def brokenOff (lines : List String) : Report := ⟨101, lines⟩

/-- The report of a run that ended in a fault. -/
def faultReport (fault : Fault) (lines : List String) : Report :=
  if fault.isOverflow then brokenOff lines
  else ⟨1, lines ++ ["ERROR " ++ fault.message]⟩

/-- The demonstration with the given arguments, seed file and accounts. -/
def report (arguments : List String) (settings : Settings) (seed : Option (Option (List UInt8)))
    (accounts : Accounts) : Report :=
  match replicaCount? arguments with
  | none => ⟨2, ["ERROR usage: quorate [replicas]"]⟩
  | some count =>
    if mostReplicas < count then brokenOff []
    else
      match ((run settings count).run (.fresh settings seed accounts)).run [] with
      | (.ok _, lines) => ⟨0, lines⟩
      | (.error fault, lines) => faultReport fault lines

end AuctionHouse.Demo
