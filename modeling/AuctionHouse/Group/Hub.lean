import AuctionHouse.Fault
import AuctionHouse.Group.View
import AuctionHouse.Wire.Format

/-!
# The hub

The hub keeps both groups.  Every process has one membership: a multicast address, a queue of
events, perhaps a state to hand over, and perhaps an RPC address under which it answers requests.
Each change of a group is published to all subscribers as a new view.  Messages are carried as
bytes, appended to the queues of their receivers in the order of sending.  An isolated address
neither sends nor receives messages, states or requests; views reach it all the same.

The hub does not know what states and answers are made of: `source` stands for what a member hands
over and `handler` for how it answers.
-/

namespace AuctionHouse

/-- What arrives in a member's queue. -/
inductive Event where
  /-- The multicast group has changed. -/
  | multicastView (view : View)
  /-- The RPC group has changed. -/
  | rpcView (view : View)
  /-- Somebody posted a message. -/
  | message (sender : Address) (body : Multicast)
deriving DecidableEq

/-- The membership of one process. -/
structure Member (source : Type) where
  /-- Its multicast address. -/
  address : Address
  /-- Whether it still receives events. -/
  isSubscribed : Bool
  /-- The state it hands over; observers have none. -/
  source : Option source
  /-- The RPC address under which it answers requests: the last one it was given. -/
  rpc : Option Address
  /-- What has arrived and has not been taken yet, oldest first. -/
  queue : List Event

/-- Both groups. -/
structure Hub (source handler : Type) where
  /-- The number given out last. -/
  lastId : UInt64
  /-- The members of the multicast group. -/
  multicastView : View
  /-- The members of the RPC group. -/
  rpcView : View
  /-- Every process that ever joined or attached, oldest first. -/
  members : List (Member source)
  /-- How requests are answered under each RPC address. -/
  handlers : List (Address × handler)
  /-- The addresses that are cut off. -/
  isolated : List Address

namespace Hub

variable {source handler : Type}

/-- Nobody has joined yet. -/
def empty : Hub source handler :=
  { lastId := 0, multicastView := .initial, rpcView := .initial, members := [], handlers := []
    isolated := [] }

/-- A new address; none when the numbers have run out. -/
def allocate? (hub : Hub source handler) (channel : Channel) :
    Option (Address × Hub source handler) :=
  if hub.lastId.toNat + 1 < UInt64.size then
    some (⟨channel, hub.lastId + 1⟩, { hub with lastId := hub.lastId + 1 })
  else
    none

/-- Whether traffic to and from an address gets through. -/
def isReachable (hub : Hub source handler) (address : Address) : Bool :=
  decide (address ∉ hub.isolated)

/-- The membership with a multicast address. -/
def member? (hub : Hub source handler) (address : Address) : Option (Member source) :=
  hub.members.find? fun member => decide (member.address = address)

/-- Whether a process with this address receives events. -/
def isSubscriber (hub : Hub source handler) (address : Address) : Bool :=
  hub.members.any fun member => member.isSubscribed && decide (member.address = address)

/-- Appends an event to the queues of the chosen subscribers. -/
def deliver (hub : Hub source handler) (event : Event) (chosen : Address → Bool) :
    Hub source handler :=
  { hub with
    members := hub.members.map fun member =>
      if member.isSubscribed && chosen member.address then
        { member with queue := member.queue ++ [event] }
      else
        member }

/-- Appends an event to the queues of all subscribers. -/
def publish (hub : Hub source handler) (event : Event) : Hub source handler :=
  hub.deliver event fun _ => true

/-- Replaces the multicast view and publishes the new one. -/
def setMulticastView (hub : Hub source handler) (view : View) : Hub source handler :=
  { hub with multicastView := view }.publish (.multicastView view)

/-- Replaces the RPC view and publishes the new one. -/
def setRpcView (hub : Hub source handler) (view : View) : Hub source handler :=
  { hub with rpcView := view }.publish (.rpcView view)

/-- Changes the membership with a multicast address. -/
def modifyMember (hub : Hub source handler) (address : Address)
    (change : Member source → Member source) : Hub source handler :=
  { hub with
    members := hub.members.map fun member =>
      if member.address = address then change member else member }

/-- A process joins the multicast group with a state to hand over.  The first event in its queue is
the view that includes it. -/
def join? (hub : Hub source handler) (state : source) : Option (Address × Hub source handler) :=
  (hub.allocate? .multicast).map fun (address, hub) =>
    let member : Member source :=
      { address, isSubscribed := true, source := some state, rpc := none, queue := [] }
    (address,
      { hub with members := hub.members ++ [member] }.setMulticastView
        (hub.multicastView.joined address))

/-- A process attaches as an observer: it is no member of the multicast group.  The first events in
its queue are the current views. -/
def attach? (hub : Hub source handler) : Option (Address × Hub source handler) :=
  (hub.allocate? .multicast).map fun (address, hub) =>
    let member : Member source :=
      { address, isSubscribed := true, source := none, rpc := none
        queue := [.multicastView hub.multicastView, .rpcView hub.rpcView] }
    (address, { hub with members := hub.members ++ [member] })

/-- A process joins the RPC group: from now on its handler answers requests. -/
def joinRpc? (hub : Hub source handler) (address : Address) (answer : handler) :
    Option (Address × Hub source handler) :=
  (hub.allocate? .rpc).map fun (rpc, hub) =>
    let served := { hub with handlers := hub.handlers ++ [(rpc, answer)] }
    (rpc,
      (served.setRpcView (hub.rpcView.joined rpc)).modifyMember address fun member =>
        { member with rpc := some rpc })

/-- The RPC address of a process. -/
def rpcAddress? (hub : Hub source handler) (address : Address) : Option Address :=
  (hub.member? address).bind fun member => member.rpc

/-- Drops an RPC address with its handler. -/
def leaveRpc (hub : Hub source handler) (rpc : Address) : Hub source handler :=
  { hub with handlers := hub.handlers.filter fun entry => entry.1 ≠ rpc }.setRpcView
    (hub.rpcView.left rpc)

/-- A process leaves both groups and receives no more events; leaving again changes nothing. -/
def leave (hub : Hub source handler) (address : Address) : Hub source handler :=
  if hub.isSubscriber address then
    let rpc := hub.rpcAddress? address
    let silent := hub.modifyMember address fun member =>
      { member with isSubscribed := false, rpc := none }
    let outside :=
      if silent.multicastView.contains address then
        silent.setMulticastView (silent.multicastView.left address)
      else
        silent
    match rpc with
    | some rpc => outside.leaveRpc rpc
    | none => outside
  else
    hub

/-- Cuts an address off. -/
def isolate (hub : Hub source handler) (address : Address) : Hub source handler :=
  { hub with isolated := address :: hub.isolated.filter fun other => other ≠ address }

/-- Connects an address again. -/
def heal (hub : Hub source handler) (address : Address) : Hub source handler :=
  { hub with isolated := hub.isolated.filter fun other => other ≠ address }

/-- Posts a message to one member or to all others.  A receiver that is nobody's address is a
fault; a message that isolation keeps from arriving is not, and nobody receives a message of their
own. -/
def send (hub : Hub source handler) (sender : Address) (receiver : Option Address)
    (body : Multicast) : Except Fault (Hub source handler) :=
  match receiver.filter fun address => !hub.isSubscriber address with
  | some unknown => .error (.unreachable unknown)
  | none =>
    if hub.isReachable sender then
      match Wire.transmit (Envelope.mk sender receiver body) with
      | .ok envelope =>
        .ok (hub.deliver (.message envelope.sender envelope.body) fun address =>
          decide (address ≠ sender) && hub.isReachable address &&
            receiver.all fun only => decide (address = only))
      | .error fault => .error (.wire fault)
    else
      .ok hub

/-- Tells a member to replace its state by that of another. -/
def sendSync (hub : Hub source handler) (sender target peer : Address) :
    Except Fault (Hub source handler) :=
  hub.send sender (some target) (.command .sync peer)

/-- Tells everybody which two addresses belong together. -/
def announce (hub : Hub source handler) (sender rpc : Address) :
    Except Fault (Hub source handler) :=
  hub.send sender none (.announce rpc sender)

/-- What a member hands over to another one that asks for its state. -/
def sourceOf (hub : Hub source handler) (asking giving : Address) : Except Fault source :=
  if hub.isReachable asking && hub.isReachable giving then
    match hub.members.find? fun member =>
      member.isSubscribed && decide (member.address = giving) with
    | some { source := some state, .. } => .ok state
    | _ => .error (.unreachable giving)
  else
    .error (.unreachable giving)

/-- Who gets a request of a caller, with their handlers: all members of the RPC group that are not
cut off, unless the caller is. -/
def audience (hub : Hub source handler) (caller : Address) : List (Address × handler) :=
  if hub.isReachable caller then
    (hub.rpcView.members.filter hub.isReachable).filterMap fun address =>
      hub.handlers.find? fun entry => decide (entry.1 = address)
  else
    []

/-- Empties a member's queue and hands out what was in it. -/
def take (hub : Hub source handler) (address : Address) : List Event × Hub source handler :=
  (((hub.member? address).map Member.queue).getD [],
    hub.modifyMember address fun member => { member with queue := [] })

end Hub

end AuctionHouse
