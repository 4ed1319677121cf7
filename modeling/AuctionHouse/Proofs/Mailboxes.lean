import AuctionHouse.Proofs.Chronicle

/-!
# What a process receives

What a process receives is what it has taken from its queue and what still waits there.  Each deed
lets a few events arrive with each process, behind everything that has arrived before, so what a
process has received is what the deeds have let arrive with it, one after the other.

For messages this means that those of one sender arrive in the order in which they were posted, each
of them once, with those for whom they are and to whom the two ends were connected.
-/

namespace AuctionHouse

variable {source handler : Type}

/-- What a message of a sender says. -/
def Event.bodyFrom? (sender : Address) : Event → Option Multicast
  | .message author body => if author = sender then some body else none
  | .multicastView _ | .rpcView _ => none

namespace Deed

/-- What a process takes from its queue. -/
def handed (receiver : Address) : Deed source handler → List Event
  | .read member events => if member = receiver then events else []
  | _ => []

/-- What a sender posts to everybody or to one receiver, if the receiver is a subscriber and neither
of the two is cut off. -/
def conveys? (hub : Hub source handler) (sender receiver : Address) :
    Deed source handler → Option Multicast
  | .sent author addressee body =>
    if author = sender ∧ (addressee = none ∨ addressee = some receiver) ∧
        hub.isSubscriber receiver = true ∧ hub.isReachable sender = true ∧
        hub.isReachable receiver = true then
      some body
    else
      none
  | _ => none

end Deed

namespace Hub

variable {hub after : Hub source handler} {past : Chronicle source handler}
  {deed : Deed source handler} {receiver : Address}

/-- What a deed lets arrive with a process. -/
def arrivals (hub : Hub source handler) (receiver : Address) : Deed source handler → List Event
  | .joined member _ =>
    if receiver = member ∨ hub.isSubscriber receiver = true then
      [.multicastView (hub.multicastView.joined member)]
    else
      []
  | .attached member =>
    if receiver = member then [.multicastView hub.multicastView, .rpcView hub.rpcView] else []
  | .joinedRpc _ rpc _ =>
    if hub.isSubscriber receiver then [.rpcView (hub.rpcView.joined rpc)] else []
  | .left member =>
    if hub.isSubscriber member && (decide (receiver ≠ member) && hub.isSubscriber receiver) then
      (if member ∈ hub.multicastView.members then
        [.multicastView (hub.multicastView.left member)]
      else
        []) ++
        ((hub.rpcAddress? member).map fun rpc => .rpcView (hub.rpcView.left rpc)).toList
    else
      []
  | .sent sender addressee body =>
    if hub.isSubscriber receiver && hub.within sender addressee receiver then
      [.message sender body]
    else
      []
  | .isolated _ | .healed _ | .called _ | .read .. => []

/-- What a process has taken from its queue and what still waits there. -/
def received (past : Chronicle source handler) (hub : Hub source handler) (receiver : Address) :
    List Event :=
  (past.flatMap fun entry => entry.2.handed receiver) ++ hub.queueOf receiver

/-! ## Queues -/

/-- What is published gets behind what waits already with everybody who receives events. -/
theorem queueOf_publish {stands : Option (Bool × Option Address)} {waiting : List Event}
    (standing : hub.standing receiver = stands) (queue : hub.queueOf receiver = waiting)
    (event : Event) :
    (hub.publish event).queueOf receiver =
      waiting ++ if stands.any Prod.fst then [event] else [] := by
  rw [publish, queueOf_deliver, Bool.and_true, standing, queue]
  split
  · rfl
  · exact (List.append_nil _).symm

/-- In the queue of somebody who is no member nothing waits. -/
theorem queueOf_of_fresh (fresh : receiver ∉ hub.members.map Member.address) :
    hub.queueOf receiver = [] :=
  queueOf_eq_nil fun _ listed named => absurd (List.mem_map.mpr ⟨_, listed, named⟩) fresh

theorem queueOf_join {member : Address} {state : source} (enumerated : hub.Enumerated)
    (joined : hub.join? state = some (member, after)) (receiver : Address) :
    after.queueOf receiver =
      hub.queueOf receiver ++ hub.arrivals receiver (.joined member state) := by
  have fresh := fresh_of_join enumerated.numbered joined
  have receives := isSubscriber_eq enumerated.distinct receiver
  obtain ⟨-, -, rfl⟩ := join?_eq_some joined
  have queue : (hub.enrolled (newcomer state member none)).queueOf receiver =
      if receiver = member then [] else hub.queueOf receiver :=
    queueOf_enrolled fresh rfl receiver
  refine Eq.trans (queueOf_publish (standing_enrolled fresh rfl receiver) queue _) ?_
  by_cases same : receiver = member
  · subst same
    simp [arrivals, newcomer, queueOf_of_fresh fresh]
  · simp [arrivals, same, receives]

theorem queueOf_attach {member : Address} (enumerated : hub.Enumerated)
    (attached : hub.attach? = some (member, after)) (receiver : Address) :
    after.queueOf receiver = hub.queueOf receiver ++ hub.arrivals receiver (.attached member) := by
  have fresh := fresh_of_attach enumerated.numbered attached
  obtain ⟨-, -, rfl⟩ := attach?_eq_some attached
  rw [queueOf_enrolled fresh rfl]
  by_cases same : receiver = member
  · subst same
    simp [arrivals, observer, queueOf_of_fresh fresh]
  · simp [arrivals, same]

theorem queueOf_joinRpc {member rpc : Address} {answer : handler} (enumerated : hub.Enumerated)
    (joinedRpc : hub.joinRpc? member answer = some (rpc, after)) (receiver : Address) :
    after.queueOf receiver =
      hub.queueOf receiver ++ hub.arrivals receiver (.joinedRpc member rpc answer) := by
  have receives := isSubscriber_eq enumerated.distinct receiver
  obtain ⟨-, -, rfl⟩ := joinRpc?_eq_some joinedRpc
  refine (queueOf_relocate _ member (fun receives => receives) (some rpc) receiver).trans ?_
  rw [queueOf_publish rfl rfl, arrivals, receives]
  rfl

/-- Who leaves hears nothing more, and everybody else hears what they would have heard. -/
theorem any_standing_left (enumerated : hub.Enumerated) (member receiver : Address) :
    (if receiver = member then (hub.standing receiver).map fun _ => (false, (none : Option Address))
      else hub.standing receiver).any Prod.fst =
        (decide (receiver ≠ member) && hub.isSubscriber receiver) := by
  rw [isSubscriber_eq enumerated.distinct]
  by_cases same : receiver = member
  · cases hub.standing receiver <;> simp [same]
  · simp [same]

theorem queueOf_silenced (enumerated : hub.Enumerated) (member receiver : Address) :
    (hub.silenced member).queueOf receiver =
      hub.queueOf receiver ++
        if decide (receiver ≠ member) && hub.isSubscriber receiver then
          if member ∈ hub.multicastView.members then
            [.multicastView (hub.multicastView.left member)]
          else
            []
        else
          [] := by
  have queue := hub.queueOf_relocate member (fun _ => false) none receiver
  have stands := hub.standing_relocate member (fun _ => false) none receiver
  have view : (hub.relocate member (fun _ => false) none).multicastView = hub.multicastView := rfl
  rw [silenced]
  by_cases listed : member ∈ hub.multicastView.members
  · rw [if_pos (by exact decide_eq_true listed), if_pos listed,
      ← any_standing_left enumerated member receiver]
    exact queueOf_publish stands queue _
  · rw [if_neg (by simpa [View.contains, view] using listed), queue, if_neg listed, ite_self,
      List.append_nil]

theorem queueOf_leave (enumerated : hub.Enumerated) {member : Address}
    (subscribed : hub.isSubscriber member = true) (receiver : Address) :
    (hub.leave member).queueOf receiver =
      hub.queueOf receiver ++ hub.arrivals receiver (.left member) := by
  have queue := queueOf_silenced enumerated member receiver
  have stands := hub.standing_silenced member receiver
  have view := hub.rpcView_silenced member
  have own : (hub.leave member).queueOf receiver =
      (hub.silenced member).queueOf receiver ++
        if decide (receiver ≠ member) && hub.isSubscriber receiver then
          ((hub.rpcAddress? member).map fun rpc => .rpcView (hub.rpcView.left rpc)).toList
        else
          [] := by
    rw [leave_of_subscriber subscribed]
    cases hub.rpcAddress? member with
    | none => simp
    | some rpc =>
        rw [← view, ← any_standing_left enumerated member receiver]
        exact queueOf_publish stands rfl _
  rw [own, queue, arrivals, subscribed, Bool.true_and, List.append_assoc]
  split
  · rfl
  · rfl

/-- What is in a queue after a deed, with what has been taken from it, is what was in it before with
what the deed has let arrive. -/
theorem Does.queueOf (does : hub.Does deed after) (enumerated : hub.Enumerated)
    (receiver : Address) :
    deed.handed receiver ++ after.queueOf receiver =
      hub.queueOf receiver ++ hub.arrivals receiver deed := by
  -- Commands and announcements are posted like any other message.
  have posted (sender : Address) (addressee : Option Address) (body : Multicast) :
      (hub.posted (hub.send sender addressee body)).queueOf receiver =
        hub.queueOf receiver ++ hub.arrivals receiver (.sent sender addressee body) := by
    rw [posted_send, queueOf_deliver, arrivals, isSubscriber_eq enumerated.distinct]
    split
    · rfl
    · exact (List.append_nil _).symm
  cases does with
  | join state joined => exact queueOf_join enumerated joined receiver
  | attach attached => exact queueOf_attach enumerated attached receiver
  | joinRpc member answer present joinedRpc => exact queueOf_joinRpc enumerated joinedRpc receiver
  | leave member present =>
      by_cases subscribed : hub.isSubscriber member = true
      · exact queueOf_leave enumerated subscribed receiver
      · rw [Hub.leave, if_neg subscribed]
        simp [Deed.handed, arrivals, subscribed]
  | isolate | heal | call => exact (List.append_nil _).symm
  | send sender addressee body => exact posted sender addressee body
  | sendSync sender target peer => exact posted sender (some target) _
  | announce sender rpc => exact posted sender none _
  | read member =>
      have emptied := hub.queueOf_emptied (fun address => address = member) receiver
      simp only [take_eq, emptied]
      by_cases same : receiver = member
      · simp [Deed.handed, arrivals, same]
      · simp [Deed.handed, arrivals, same, Ne.symm same]

/-- What a process has received is what the deeds have let arrive with it, in their order. -/
theorem Run.received_eq (run : Run past hub) (receiver : Address) :
    received past hub receiver = past.flatMap fun entry => entry.1.arrivals receiver entry.2 := by
  induction run with
  | begin => rfl
  | @next past hub after deed run does induction =>
      rw [List.flatMap_append, ← induction, received, received, List.flatMap_append,
        List.append_assoc, List.append_assoc]
      simp [does.queueOf run.enumerated]

/-! ## Messages -/

/-- A message can reach somebody else if it is for them and neither end is cut off. -/
theorem within_eq_true_iff {sender receiver : Address} {addressee : Option Address} :
    hub.within sender addressee receiver = true ↔ sender ≠ receiver ∧
      (addressee = none ∨ addressee = some receiver) ∧ hub.isReachable sender = true ∧
      hub.isReachable receiver = true := by
  have meant : (addressee.all fun only => decide (receiver = only)) = true ↔
      addressee = none ∨ addressee = some receiver := by
    cases addressee with
    | none => simp
    | some only => simp [eq_comm]
  simp only [within, Bool.and_eq_true, decide_eq_true_eq, meant, ne_comm]
  constructor
  · rintro ⟨⟨⟨differ, here⟩, there⟩, whom⟩
    exact ⟨differ, whom, here, there⟩
  · rintro ⟨differ, whom, here, there⟩
    exact ⟨⟨⟨differ, here⟩, there⟩, whom⟩

/-- A message gets to those for whom it is, if they hear it, and nobody hears a message of their
own. -/
theorem filterMap_arrivals (hub : Hub source handler) (sender receiver : Address)
    (deed : Deed source handler) :
    (hub.arrivals receiver deed).filterMap (Event.bodyFrom? sender) =
      if sender = receiver then [] else (deed.conveys? hub sender receiver).toList := by
  cases deed with
  | sent author addressee body =>
      by_cases same : author = sender
      · subst same
        simp only [arrivals, Deed.conveys?, Bool.and_eq_true, within_eq_true_iff]
        by_cases own : author = receiver
        · simp [own]
        · simp [own, Event.bodyFrom?, apply_ite (List.filterMap _), apply_ite Option.toList,
            and_left_comm]
      · simp [arrivals, Deed.conveys?, same, Event.bodyFrom?, apply_ite (List.filterMap _)]
  | left member =>
      cases remembers : hub.rpcAddress? member with
      | none =>
          simp [arrivals, Deed.conveys?, Event.bodyFrom?, remembers, apply_ite (List.filterMap _)]
      | some rpc =>
          simp [arrivals, Deed.conveys?, Event.bodyFrom?, remembers, apply_ite (List.filterMap _)]
  | joined | attached | joinedRpc | isolated | healed | called | read =>
      simp [arrivals, Deed.conveys?, Event.bodyFrom?, apply_ite (List.filterMap _)]

/-- What a process has received from another one is what has been conveyed. -/
theorem Run.bodies (run : Run past hub) (sender receiver : Address) :
    (received past hub receiver).filterMap (Event.bodyFrom? sender) =
      if sender = receiver then []
      else past.filterMap fun entry => entry.2.conveys? entry.1 sender receiver := by
  simp only [run.received_eq, List.filterMap_flatMap, filterMap_arrivals]
  by_cases own : sender = receiver
  · simp [own]
  · simp only [own, if_false]
    exact (List.filterMap_eq_flatMap_toList _ _).symm

/-- Posting fails if it is for one process only and that one hears nothing any more. -/
theorem send_eq_error_iff {sender target : Address} {addressee : Option Address}
    {body : Multicast} :
    hub.send sender addressee body = .error (.unreachable target) ↔
      addressee = some target ∧ hub.isSubscriber target = false := by
  have refused : addressee.filter (fun only => !hub.isSubscriber only) = some target ↔
      addressee = some target ∧ hub.isSubscriber target = false := by
    rw [Option.filter_eq_some_iff, Bool.not_eq_true']
  rw [send_eq, ← refused]
  cases addressee.filter fun only => !hub.isSubscriber only with
  | none => simp
  | some unknown => simp

/-- Posting succeeds if it is for all others, or for somebody who hears events. -/
theorem send_eq_ok {addressee : Option Address}
    (known : ∀ target, addressee = some target → hub.isSubscriber target = true)
    (sender : Address) (body : Multicast) :
    hub.send sender addressee body =
      .ok (hub.deliver (.message sender body) (hub.within sender addressee)) := by
  have accepted : addressee.filter (fun only => !hub.isSubscriber only) = none := by
    rw [Option.filter_eq_none_iff]
    intro target is
    simp [known target is]
  rw [send_eq, accepted]

/-- However a hub has been used, a process has received from another one what that one has posted to
it or to everybody while it was a subscriber and neither of the two was cut off: in the same order,
each message once, and with the same words.  Posting fails exactly if it is for somebody who is no
subscriber.  Nobody receives a message of their own, one that is for somebody else or one that is
refused, and posting changes nothing but queues, where it leaves what waits already.  Whoever has
joined or attached and has not left is a subscriber, and an address is cut off if the last thing
done about it was to cut it off. -/
theorem Run.messages (run : Run past hub) :
    (∀ sender receiver, sender ≠ receiver →
      (received past hub receiver).filterMap (Event.bodyFrom? sender) =
        past.filterMap fun entry => entry.2.conveys? entry.1 sender receiver) ∧
    (∀ member, (received past hub member).filterMap (Event.bodyFrom? member) = []) ∧
    (∀ sender addressee body target,
      hub.send sender addressee body = .error (.unreachable target) ↔
        addressee = some target ∧ hub.isSubscriber target = false) ∧
    (∀ sender addressee body,
      (∀ target, addressee = some target → hub.isSubscriber target = true) →
        ∃ after, hub.send sender addressee body = .ok after) ∧
    (∀ sender target body receiver, receiver ≠ target ∨ hub.isSubscriber target = false →
      received (past ++ [(hub, .sent sender (some target) body)])
        (hub.posted (hub.send sender (some target) body)) receiver = received past hub receiver) ∧
    (∀ sender addressee body after, hub.send sender addressee body = .ok after →
      ∃ queue, after = hub.withQueues queue ∧ ∀ member,
        queue member = member.queue ∨ queue member = member.queue ++ [.message sender body]) ∧
    (∀ address, hub.isSubscriber address = true ↔
      address ∈ enrolledIn past ∧ address ∉ leaversIn past) ∧
    ∀ address, hub.isReachable address = true ↔
      (past.filterMap fun entry => entry.2.severs? address).getLast? ≠ some true := by
  refine ⟨fun sender receiver differ => ?_, fun member => ?_, fun _ _ _ _ => send_eq_error_iff,
    fun sender _ body known => ⟨_, send_eq_ok known sender body⟩,
    fun sender target body receiver missed => ?_, fun sender addressee body after sent => ?_,
    run.isSubscriber_iff, run.isReachable_iff⟩
  · rw [run.bodies, if_neg differ]
  · rw [run.bodies, if_pos rfl]
  · -- Where the receiver is the target, it is one that hears nothing.
    have nothing : hub.arrivals receiver (.sent sender (some target) body) = [] := by
      rw [arrivals, if_neg]
      simp only [Bool.and_eq_true, within_eq_true_iff, not_and]
      intro subscribed differ meant
      obtain rfl : target = receiver := by simpa using meant
      rcases missed with other | deaf
      · exact absurd rfl other
      · rw [subscribed] at deaf
        contradiction
    rw [(run.next (.send sender (some target) body)).received_eq, run.received_eq,
      List.flatMap_append]
    simp [nothing]
  · rw [send_eq] at sent
    split at sent
    · contradiction
    · rw [← Except.ok.inj sent, deliver_eq]
      refine ⟨_, rfl, fun member => ?_⟩
      split
      · exact .inr rfl
      · exact .inl rfl

/-- Posting lets a message get to whom it can reach. -/
theorem Does.deliver (hub : Hub source handler) (sender : Address) (addressee : Option Address)
    (body : Multicast) :
    hub.Does (.sent sender addressee body)
      (hub.deliver (.message sender body) (hub.within sender addressee)) :=
  hub.posted_send sender addressee body ▸ .send sender addressee body

/-- What is posted while the receiver is cut off and what is for somebody else does not arrive, and
what is for somebody who has left is refused. -/
theorem Run.messages_cut_off : ∃ (past : Chronicle Unit Unit) (hub : Hub Unit Unit),
    Run past hub ∧
      (received past hub ⟨.multicast, 2⟩).filterMap (Event.bodyFrom? ⟨.multicast, 1⟩) =
        [.announce ⟨.rpc, 9⟩ ⟨.multicast, 1⟩, .command .sync ⟨.multicast, 1⟩] ∧
      hub.send ⟨.multicast, 1⟩ (some ⟨.multicast, 3⟩) (.command .sync ⟨.multicast, 2⟩) =
        .error (.unreachable ⟨.multicast, 3⟩) := by
  obtain ⟨past, hub, run, conveyed, gone⟩ :
      ∃ (past : Chronicle Unit Unit) (hub : Hub Unit Unit), Run past hub ∧
        (past.filterMap fun entry =>
          entry.2.conveys? entry.1 ⟨.multicast, 1⟩ ⟨.multicast, 2⟩) =
            [.announce ⟨.rpc, 9⟩ ⟨.multicast, 1⟩, .command .sync ⟨.multicast, 1⟩] ∧
        hub.isSubscriber ⟨.multicast, 3⟩ = false :=
    ⟨_, _, Run.begin.next (.join () rfl)
      |>.next (.join () rfl)
      |>.next (.attach rfl)
      |>.next (.deliver _ ⟨.multicast, 1⟩ none (.announce ⟨.rpc, 9⟩ ⟨.multicast, 1⟩))
      |>.next (.isolate ⟨.multicast, 2⟩)
      |>.next (.deliver _ ⟨.multicast, 1⟩ (some ⟨.multicast, 2⟩) (.command .sync ⟨.multicast, 3⟩))
      |>.next (.heal ⟨.multicast, 2⟩)
      |>.next (.deliver _ ⟨.multicast, 1⟩ (some ⟨.multicast, 3⟩) (.command .sync ⟨.multicast, 2⟩))
      |>.next (.read ⟨.multicast, 2⟩)
      |>.next (.deliver _ ⟨.multicast, 1⟩ (some ⟨.multicast, 2⟩) (.command .sync ⟨.multicast, 1⟩))
      |>.next (.leave ⟨.multicast, 3⟩ (by decide)),
      rfl, rfl⟩
  obtain ⟨arrive, -, refused, -⟩ := run.messages
  exact ⟨past, hub, run, (arrive _ _ (by decide)).trans conveyed,
    (refused _ _ _ _).mpr ⟨rfl, gone⟩⟩

end Hub

end AuctionHouse
