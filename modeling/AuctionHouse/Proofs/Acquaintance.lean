import AuctionHouse.Proofs.Custody

/-!
# Who is spoken of

Announcements name the member that makes them, and commands name members that a coordinator knows
from announcements.  So nobody is named in a queue or an address book before joining, whatever else
happens, and a command never names somebody who joins after it was given.
-/

namespace AuctionHouse

/-- The member of the multicast group that a message names. -/
def Event.named? : Event → Option Address
  | .message _ (.announce _ multicast) => some multicast
  | .message _ (.command .sync peer) => some peer
  | _ => none

/-- Who is to be copied is named. -/
theorem Event.named?_of_peer? {event : Event} {peer : Address} (copies : event.peer? = some peer) :
    event.named? = some peer := by
  cases event with
  | multicastView view => contradiction
  | rpcView view => contradiction
  | message sender body =>
      cases body with
      | announce rpc multicast => contradiction
      | command order peer => exact copies

namespace Hub

variable {source handler : Type} {hub after : Hub source handler} {known : Address → Prop}

/-- Messages in the queues name nobody else than who is known. -/
def Mentions (hub : Hub source handler) (known : Address → Prop) : Prop :=
  ∀ member ∈ hub.members, ∀ event ∈ member.queue, ∀ address ∈ event.named?, known address

theorem Mentions.withQueues (mentions : hub.Mentions known)
    {queue : Member source → List Event}
    (added : ∀ member ∈ hub.members, ∀ event ∈ queue member,
      event ∈ member.queue ∨ ∀ address ∈ event.named?, known address) :
    (hub.withQueues queue).Mentions known := by
  intro member listed event waits
  obtain ⟨old, isMember, rfl⟩ := List.mem_map.mp listed
  rcases added old isMember event waits with before | new
  · exact mentions old isMember event before
  · exact new

theorem Mentions.deliver (mentions : hub.Mentions known) {event : Event}
    (named : ∀ address ∈ event.named?, known address) (chosen : Address → Bool) :
    (hub.deliver event chosen).Mentions known := by
  rw [deliver_eq]
  refine mentions.withQueues fun member _ arrived waits => ?_
  split at waits
  · rcases List.mem_append.mp waits with before | new
    · exact .inl before
    · exact .inr (List.mem_singleton.mp new ▸ named)
  · exact .inl waits

/-- Views name nobody. -/
theorem Mentions.of_join (mentions : hub.Mentions known) {state : source} {multicast : Address}
    (join : hub.join? state = some (multicast, after)) : after.Mentions known := by
  obtain ⟨-, -, rfl⟩ := join?_eq_some join
  refine Mentions.deliver (fun member listed => ?_) (by simp [Event.named?]) _
  rcases List.mem_append.mp listed with old | new
  · exact mentions member old
  · obtain rfl := List.mem_singleton.mp new
    simp [newcomer]

theorem Mentions.of_joinRpc (mentions : hub.Mentions known) {answer : handler}
    {multicast rpc : Address} (joinRpc : hub.joinRpc? multicast answer = some (rpc, after)) :
    after.Mentions known := by
  obtain ⟨-, -, rfl⟩ := joinRpc?_eq_some joinRpc
  have published : ({ hub with
      lastId := hub.lastId + 1
      handlers := hub.handlers ++ [(rpc, answer)]
      rpcView := hub.rpcView.joined rpc }.publish
        (.rpcView (hub.rpcView.joined rpc))).Mentions known := by
    refine Mentions.deliver (fun member listed => ?_) (by simp [Event.named?]) fun _ => true
    exact mentions member listed
  intro member listed
  obtain ⟨old, isMember, rfl⟩ := List.mem_map.mp listed
  dsimp only
  split
  · exact published old isMember
  · exact published old isMember

/-- An announcement names who makes it. -/
theorem Mentions.of_announce (mentions : hub.Mentions known) {multicast rpc : Address}
    (isKnown : known multicast) (announce : hub.announce multicast rpc = .ok after) :
    after.Mentions known := by
  rw [Hub.announce, send] at announce
  simp only [Option.filter, Wire.transmit_of_survives (Wire.survives_envelope _)] at announce
  split at announce
  · obtain rfl := Except.ok.inj announce
    exact mentions.deliver (by simpa [Event.named?] using isKnown) _
  · obtain rfl := Except.ok.inj announce
    exact mentions

theorem Mentions.dismissed (mentions : hub.Mentions known) (multicast rpc : Address) :
    (hub.dismissed multicast rpc).Mentions known := by
  intro member listed
  obtain ⟨old, isMember, rfl⟩ := List.mem_map.mp listed
  split
  · exact mentions old isMember
  · exact mentions old isMember

theorem mem_of_heard {events : List Event} {member : Member source} {event : Event}
    (waits : event ∈ heard events member) : event ∈ member.queue ∨ event ∈ events := by
  rw [heard] at waits
  split at waits
  · exact List.mem_append.mp waits
  · exact .inl waits

end Hub

namespace Cluster

/-- Messages and address books name nobody else than who is known. -/
structure Acquainted (cluster : Cluster) (known : Address → Prop) : Prop where
  heard : cluster.hub.Mentions known
  noted : ∀ coordinator ∈ cluster.coordinators, ∀ rpc multicast,
    coordinator.book.find? rpc = some multicast → known multicast

variable {cluster : Cluster} {me : Address} {known wider : Address → Prop}

theorem Acquainted.mono (acquainted : cluster.Acquainted known)
    (widens : ∀ address, known address → wider address) : cluster.Acquainted wider where
  heard := fun member listed event waits address named =>
    widens address (acquainted.heard member listed event waits address named)
  noted := fun coordinator listed rpc multicast found =>
    widens multicast (acquainted.noted coordinator listed rpc multicast found)

/-- Nobody is told to copy the state of somebody unknown. -/
theorem Acquainted.of_mem_peersOf (acquainted : cluster.Acquainted known) {address peer : Address}
    (told : peer ∈ cluster.peersOf address) : known peer := by
  obtain ⟨event, waits, names⟩ := mem_peersOf_iff.mp told
  rw [Hub.queueOf] at waits
  cases found : cluster.hub.member? address with
  | none => simp [found] at waits
  | some member =>
      rw [found] at waits
      exact acquainted.heard member (Hub.mem_of_member? found).1 event waits peer
        (Event.named?_of_peer? names)

/-- No coordinator plans to have the state of somebody unknown copied. -/
theorem Acquainted.of_mem_repairs (acquainted : cluster.Acquainted known) {ballot : Ballot Reply}
    {step : Address × Address} (planned : step ∈ cluster.repairs me ballot) : known step.2 := by
  rw [repairs_eq] at planned
  obtain ⟨-, rpc, -, -, -, found, -⟩ := Ballot.mem_repairPlan planned
  rw [bookOf] at found
  cases present : cluster.coordinator? me with
  | none => simp [present, AddressBook.find?, AddressBook.empty] at found
  | some coordinator =>
      rw [present] at found
      exact acquainted.noted coordinator (List.mem_of_find?_eq_some present) rpc step.2 found

/-- A command names nobody else. -/
theorem Acquainted.command (acquainted : cluster.Acquainted known) {step : Address × Address}
    (isKnown : known step.2) : (carryOut me cluster [step]).Acquainted known := by
  obtain ⟨more, carried⟩ := carryOut_cons me cluster step.1 step.2 []
  rw [carried]
  refine ⟨acquainted.heard.withQueues fun member listed event waits => ?_, acquainted.noted⟩
  rcases List.mem_append.mp waits with before | commanded
  · exact .inl before
  · right
    rw [Hub.commandsFor] at commanded
    split at commanded
    · simp only [Option.mem_toList, Option.map_eq_some_iff] at commanded
      obtain ⟨peer, found, rfl⟩ := commanded
      obtain rfl := congrArg Prod.snd (List.mem_singleton.mp (mem_of_lookup found))
      simpa [Event.named?] using isKnown
    · contradiction

theorem Acquainted.answer (acquainted : cluster.Acquainted known) (request : Request)
    (answerer : Answerer) : (cluster.answer request answerer).2.Acquainted known := by
  obtain ⟨hub, -, coordinators⟩ := cluster.answer_frame request answerer
  exact ⟨hub ▸ acquainted.heard, coordinators ▸ acquainted.noted⟩

end Cluster

namespace Scene

open Cluster

variable {me : Address} {scene after : Scene} {known : Address → Prop}

theorem acquainted_dequeue {cluster : Cluster} (acquainted : cluster.Acquainted known)
    (address : Address) :
    (cluster.withHub (cluster.hub.dequeue address)).Acquainted known := by
  refine ⟨acquainted.heard.withQueues fun member _ event waits => .inl ?_, acquainted.noted⟩
  split at waits
  · exact List.mem_of_mem_tail waits
  · exact waits

/-- Listeners make nobody known. -/
theorem Listens.acquainted (listens : scene.Listens after)
    (acquainted : scene.cluster.Acquainted known) : after.cluster.Acquainted known := by
  cases listens with
  | @note coordinator event rest listed waiting =>
      have said : ∀ address ∈ event.named?, known address := by
        intro address names
        rw [Hub.queueOf] at waiting
        cases found : scene.cluster.hub.member? coordinator.address with
        | none => simp [found] at waiting
        | some member =>
            rw [found] at waiting
            have waits : event ∈ member.queue := by
              change member.queue = event :: rest at waiting
              simp [waiting]
            exact acquainted.heard member (Hub.mem_of_member? found).1 event waits address names
      refine ⟨(acquainted_dequeue acquainted _).heard, fun noted isNoted rpc multicast found => ?_⟩
      obtain ⟨old, wasListed, rfl⟩ := List.mem_map.mp isNoted
      split at found
      · rcases find?_bookAfter found with before | ⟨sender, rfl⟩
        · exact acquainted.noted old wasListed rpc multicast before
        · exact said multicast rfl
      · exact acquainted.noted old wasListed rpc multicast found
  | pass isRunning idle waiting unheard => exact acquainted_dequeue acquainted _
  | fetch isRunning idle waiting told handed => exact acquainted_dequeue acquainted _
  | miss isRunning idle waiting told refused =>
      exact ⟨(acquainted_dequeue acquainted _).heard, acquainted.noted⟩
  | restore listed held => exact ⟨acquainted.heard, acquainted.noted⟩

theorem Meanwhile.acquainted (meanwhile : scene.Meanwhile after)
    (acquainted : scene.cluster.Acquainted known) : after.cluster.Acquainted known :=
  meanwhile.keep (fun later => later.cluster.Acquainted known)
    (fun acquainted listens => listens.acquainted acquainted) acquainted

/-- Nor do operations. -/
theorem Performs.acquainted {operation : Operation} {before : Scene} {log : List Service}
    {ballot : Ballot Reply} (performs : Performs me operation scene before log ballot after)
    (acquainted : scene.cluster.Acquainted known) : after.cluster.Acquainted known :=
  performs.keep (fun later => later.cluster.Acquainted known)
    (fun acquainted listens => listens.acquainted acquainted)
    (fun _ _ acquainted => acquainted.answer _ _)
    (fun _ planned _ isStep acquainted => acquainted.command (planned.of_mem_repairs isStep))
    acquainted

end Scene

end AuctionHouse
