import Mathlib.Data.List.Nodup
import AuctionHouse.Group.Hub

/-!
# Queues of a hub

Delivering an event and emptying a queue change nothing in a hub but the queues of its members.
So who is a member, who is reachable, who answers requests and who hands over a state stay the same
while messages are posted and worked off.
-/

namespace AuctionHouse

section Lookup

variable {entry : Type} {name : entry → Address}

/-- What is done to all entries of a list is done to the one that is found, if all keep their
addresses. -/
theorem find?_map_of_named {change : entry → entry}
    (named : ∀ found, name (change found) = name found) (entries : List entry)
    (address : Address) :
    (entries.map change).find? (fun found => decide (name found = address)) =
      (entries.find? fun found => decide (name found = address)).map change := by
  simp only [List.find?_map, Function.comp_def, named]

/-- An entry under a fresh address is found, and everything else is found as before. -/
theorem find?_append_of_fresh {entries : List entry} (newcomer : entry)
    (fresh : name newcomer ∉ entries.map name) (address : Address) :
    (entries ++ [newcomer]).find? (fun found => decide (name found = address)) =
      if address = name newcomer then some newcomer
      else entries.find? fun found => decide (name found = address) := by
  rw [List.find?_append, List.find?_singleton]
  by_cases same : address = name newcomer
  · have absent : entries.find? (fun found => decide (name found = address)) = none := by
      refine List.find?_eq_none.mpr fun old listed => ?_
      simp only [decide_eq_true_eq]
      intro equal
      exact fresh (equal.trans same ▸ List.mem_map_of_mem listed)
    rw [absent, if_pos same, Option.none_or, if_pos (decide_eq_true same.symm)]
  · rw [if_neg same, if_neg (by simpa using Ne.symm same), Option.or_none]

/-- Where no two entries share an address, each one is found under its own. -/
theorem find?_of_nodup {entries : List entry} (distinct : (entries.map name).Nodup)
    {present : entry} (listed : present ∈ entries) :
    (entries.find? fun found => decide (name found = name present)) = some present := by
  cases result : entries.find? fun found => decide (name found = name present) with
  | none =>
      have absent := List.find?_eq_none.mp result present listed
      simp at absent
  | some other =>
      have named : name other = name present := by simpa using List.find?_some result
      rw [List.inj_on_of_nodup_map distinct (List.mem_of_find?_eq_some result) listed named]

end Lookup

namespace Hub

variable {source handler : Type}

/-- The hub with other queues. -/
def withQueues (hub : Hub source handler) (queue : Member source → List Event) :
    Hub source handler :=
  { hub with members := hub.members.map fun member => { member with queue := queue member } }

/-- What waits in a member's queue. -/
def queueOf (hub : Hub source handler) (address : Address) : List Event :=
  ((hub.member? address).map Member.queue).getD []

/-- A state is handed over by the subscriber with the address, if it has one. -/
theorem sourceOf_eq (hub : Hub source handler) (asking giving : Address) :
    hub.sourceOf asking giving =
      if hub.isReachable asking && hub.isReachable giving then
        ((hub.members.find? fun member =>
          member.isSubscribed && decide (member.address = giving)).bind Member.source).elim
            (.error (.unreachable giving)) .ok
      else .error (.unreachable giving) := by
  rw [sourceOf]
  split
  · cases hub.members.find? fun member =>
        member.isSubscribed && decide (member.address = giving) with
    | none => rfl
    | some member =>
        obtain ⟨address, isSubscribed, state, rpc, queue⟩ := member
        cases state <;> rfl
  · rfl

/-- Whose state is handed over is a subscriber. -/
theorem exists_of_sourceOf {hub : Hub source handler} {asking giving : Address} {state : source}
    (handed : hub.sourceOf asking giving = .ok state) :
    ∃ member ∈ hub.members, member.isSubscribed = true ∧ member.address = giving ∧
      member.source = some state := by
  rw [sourceOf_eq] at handed
  split at handed
  · cases found : hub.members.find? fun member =>
        member.isSubscribed && decide (member.address = giving) with
    | none => simp [found] at handed
    | some member =>
        have facts := List.find?_some found
        simp only [Bool.and_eq_true, decide_eq_true_eq] at facts
        refine ⟨member, List.mem_of_find?_eq_some found, facts.1, facts.2, ?_⟩
        cases source : member.source with
        | none => simp [found, source] at handed
        | some given => simpa [found, source] using handed
  · contradiction

section WithQueues

variable (hub : Hub source handler) (queue : Member source → List Event)

@[simp]
theorem addresses_withQueues :
    (hub.withQueues queue).members.map Member.address = hub.members.map Member.address := by
  simp [withQueues, Function.comp_def]

theorem member?_withQueues (address : Address) :
    (hub.withQueues queue).member? address =
      (hub.member? address).map fun member => { member with queue := queue member } := by
  simp only [member?, withQueues, List.find?_map]
  rfl

@[simp]
theorem sourceOf_withQueues (asking giving : Address) :
    (hub.withQueues queue).sourceOf asking giving = hub.sourceOf asking giving := by
  rw [sourceOf_eq, sourceOf_eq]
  have found : ((hub.withQueues queue).members.find? fun member =>
        member.isSubscribed && decide (member.address = giving)).bind Member.source =
      (hub.members.find? fun member =>
        member.isSubscribed && decide (member.address = giving)).bind Member.source := by
    rw [withQueues, List.find?_map, Option.bind_map]
    rfl
  rw [found]
  rfl

theorem withQueues_withQueues (later : Member source → List Event) :
    (hub.withQueues queue).withQueues later =
      hub.withQueues fun member => later { member with queue := queue member } := by
  simp [withQueues, Function.comp_def]

end WithQueues

theorem withQueues_congr {hub : Hub source handler} {queue other : Member source → List Event}
    (same : ∀ member ∈ hub.members, queue member = other member) :
    hub.withQueues queue = hub.withQueues other := by
  have members : (hub.members.map fun member => { member with queue := queue member }) =
      hub.members.map fun member => { member with queue := other member } :=
    List.map_congr_left fun member listed => by rw [same member listed]
  rw [withQueues, members]
  rfl

theorem withQueues_self {hub : Hub source handler} {queue : Member source → List Event}
    (same : ∀ member ∈ hub.members, queue member = member.queue) : hub.withQueues queue = hub := by
  have unchanged : hub.withQueues queue = hub.withQueues Member.queue := withQueues_congr same
  rw [unchanged]
  simp [withQueues]

theorem mem_of_member? {hub : Hub source handler} {address : Address} {member : Member source}
    (found : hub.member? address = some member) :
    member ∈ hub.members ∧ member.address = address :=
  ⟨List.mem_of_find?_eq_some found, by simpa using List.find?_some found⟩

theorem member?_eq_some {hub : Hub source handler}
    (distinct : (hub.members.map Member.address).Nodup) {member : Member source}
    (listed : member ∈ hub.members) : hub.member? member.address = some member :=
  find?_of_nodup distinct listed

theorem queueOf_eq_nil {hub : Hub source handler} {address : Address}
    (empty : ∀ member ∈ hub.members, member.address = address → member.queue = []) :
    hub.queueOf address = [] := by
  rw [queueOf]
  cases found : hub.member? address with
  | none => rfl
  | some member =>
      obtain ⟨listed, named⟩ := mem_of_member? found
      exact empty member listed named

theorem queueOf_withQueues (hub : Hub source handler) (queue : Member source → List Event)
    (address : Address) :
    (hub.withQueues queue).queueOf address = ((hub.member? address).map queue).getD [] := by
  rw [queueOf, member?_withQueues]
  cases hub.member? address <;> rfl

/-- Emptying the queues of some addresses leaves the other ones as they are. -/
theorem queueOf_emptied (hub : Hub source handler) (emptied : Address → Prop)
    [DecidablePred emptied] (address : Address) :
    (hub.withQueues fun member => if emptied member.address then [] else member.queue).queueOf
      address = if emptied address then [] else hub.queueOf address := by
  rw [queueOf_withQueues, queueOf]
  cases found : hub.member? address with
  | none => simp
  | some member =>
      obtain ⟨-, rfl⟩ := mem_of_member? found
      simp

theorem take_eq (hub : Hub source handler) (address : Address) :
    hub.take address = (hub.queueOf address,
      hub.withQueues fun member => if member.address = address then [] else member.queue) := by
  have members : (hub.members.map fun member =>
      if member.address = address then { member with queue := [] } else member) =
      hub.members.map fun member =>
        { member with queue := if member.address = address then [] else member.queue } :=
    List.map_congr_left fun member _ => by split <;> rfl
  simp only [take, modifyMember, members]
  rfl

theorem deliver_eq (hub : Hub source handler) (event : Event) (chosen : Address → Bool) :
    hub.deliver event chosen = hub.withQueues fun member =>
      if (member.isSubscribed && chosen member.address) = true then member.queue ++ [event]
      else member.queue := by
  have members : (hub.members.map fun member =>
      if (member.isSubscribed && chosen member.address) = true then
        { member with queue := member.queue ++ [event] } else member) =
      hub.members.map fun member =>
        { member with
          queue := if (member.isSubscribed && chosen member.address) = true then
            member.queue ++ [event] else member.queue } :=
    List.map_congr_left fun member _ => by split <;> rfl
  simp only [deliver, members]
  rfl

end Hub

end AuctionHouse
