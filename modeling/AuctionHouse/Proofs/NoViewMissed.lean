import Mathlib.Data.List.Chain
import AuctionHouse.Proofs.Mailboxes
import AuctionHouse.Proofs.ViewChanges

/-!
# No view is missed

Each change of a group is published to everybody who receives events at that time.  So whoever joins
receives every view from the one that includes it, and whoever attaches those of that time and every
later one; nobody who still receives events has missed one, and nobody who has left receives
anything more.
-/

namespace AuctionHouse

variable {source handler : Type}

/-- The view of one of the groups, if that is what has arrived. -/
def Event.view? : Channel → Event → Option View
  | .multicast, .multicastView view => some view
  | .rpc, .rpcView view => some view
  | _, _ => none

/-- Views with consecutive numbers, the last of which is the current one. -/
def View.Succession (views : List View) (current : View) : Prop :=
  views.IsChain (fun view next => next.id = view.id + 1) ∧ views.getLast? = some current

theorem View.joined_ne (view : View) (address : Address) : view.joined address ≠ view :=
  fun same => Nat.succ_ne_self view.id (congrArg View.id same)

theorem View.left_ne (view : View) (address : Address) : view.left address ≠ view :=
  fun same => Nat.succ_ne_self view.id (congrArg View.id same)

/-- A succession goes on with the next view, if there is a new one. -/
theorem View.Succession.next {views : List View} {view next : View}
    (succession : View.Succession views view) (follows : next = view ∨ next.id = view.id + 1) :
    View.Succession (views ++ if next = view then [] else [next]) next := by
  obtain ⟨chain, last⟩ := succession
  split
  · rename_i same
    rw [List.append_nil, same]
    exact ⟨chain, last⟩
  · rename_i differ
    refine ⟨List.isChain_append.mpr ⟨chain, .singleton _, ?_⟩, List.getLast?_concat⟩
    intro final isFinal first isFirst
    obtain rfl := Option.some.inj (isFirst : some next = some first)
    obtain rfl : view = final := Option.some.inj (last.symm.trans isFinal)
    exact follows.resolve_left differ

namespace Hub

variable {hub after before : Hub source handler} {past earlier later : Chronicle source handler}
  {deed : Deed source handler} {member receiver : Address}

/-- The view of one of the groups. -/
def view (hub : Hub source handler) : Channel → View
  | .multicast => hub.multicastView
  | .rpc => hub.rpcView

/-! ## Whom views reach -/

/-- Nothing arrives with somebody who receives no events or leaves now. -/
theorem arrivals_eq_nil (stranger : deed.enrolled? ≠ some receiver)
    (leaves : hub.isSubscriber receiver = true → deed.left? = some receiver) :
    hub.arrivals receiver deed = [] := by
  by_cases subscribed : hub.isSubscriber receiver = true
  · have left := leaves subscribed
    cases deed with
    | left member =>
        obtain rfl := Option.some.inj left
        simp [arrivals]
    | _ => contradiction
  · cases deed with
    | joined member state =>
        have differ : receiver ≠ member := fun same => stranger (congrArg some same.symm)
        simp [arrivals, subscribed, differ]
    | attached member => exact if_neg fun same => stranger (congrArg some same.symm)
    | _ => simp [arrivals, subscribed]

/-- Nothing has arrived with anybody before it became a member or after it had left. -/
theorem Run.arrivals_eq_nil (run : Run (past ++ (before, deed) :: later) hub)
    (absent : member ∉ enrolledIn (past ++ [(before, deed)]) ∨
      member ∈ leaversIn (past ++ [(before, deed)])) : before.arrivals member deed = [] := by
  obtain ⟨run, after, does⟩ := run.upTo
  have silent : ¬ after.isSubscriber member = true := by
    rw [(run.next does).isSubscriber_iff]
    rintro ⟨enrolled, stays⟩
    exact absent.elim (absurd enrolled) stays
  rw [does.isSubscriber_iff run.enumerated, not_or, not_and, not_not] at silent
  exact Hub.arrivals_eq_nil silent.1 silent.2

theorem Run.givesWay (run : Run past hub) (does : hub.Does deed after) :
    ∀ channel, (hub.view channel).GivesWay (after.view channel)
  | .multicast => does.multicastView
  | .rpc => run.rpcView_givesWay does

/-- Who joins is known to everybody, and to itself. -/
theorem filterMap_arrivals_joined {state : source}
    (joined : hub.join? state = some (member, after))
    (hears : receiver = member ∨ hub.isSubscriber receiver = true) (channel : Channel) :
    (hub.arrivals receiver (.joined member state)).filterMap (Event.view? channel) =
      if after.view channel = hub.view channel then [] else [after.view channel] := by
  rw [arrivals, if_pos hears]
  cases channel with
  | multicast =>
      rw [view, view, multicastView_join joined]
      exact (if_neg (View.joined_ne _ _)).symm
  | rpc =>
      obtain ⟨-, -, rfl⟩ := join?_eq_some joined
      exact (if_pos rfl).symm

theorem view_attach (attached : hub.attach? = some (member, after)) (channel : Channel) :
    after.view channel = hub.view channel := by
  obtain ⟨-, -, rfl⟩ := attach?_eq_some attached
  cases channel with
  | multicast => rfl
  | rpc => rfl

/-- Who joins the RPC group is known to everybody. -/
theorem filterMap_arrivals_joinedRpc {rpc : Address} {answer : handler}
    (joinedRpc : hub.joinRpc? member answer = some (rpc, after))
    (hears : hub.isSubscriber receiver = true) (channel : Channel) :
    (hub.arrivals receiver (.joinedRpc member rpc answer)).filterMap (Event.view? channel) =
      if after.view channel = hub.view channel then [] else [after.view channel] := by
  rw [arrivals, if_pos hears]
  cases channel with
  | multicast =>
      rw [view, view, multicastView_joinRpc joinedRpc]
      exact (if_pos rfl).symm
  | rpc =>
      rw [view, view, rpcView_joinRpc joinedRpc]
      exact (if_neg (View.joined_ne _ _)).symm

/-- Who leaves lets everybody else know the next views. -/
theorem filterMap_arrivals_left (subscribed : hub.isSubscriber member = true)
    (hears : hub.isSubscriber receiver = true) (differ : receiver ≠ member) (channel : Channel) :
    (hub.arrivals receiver (.left member)).filterMap (Event.view? channel) =
      if (hub.leave member).view channel = hub.view channel then []
      else [(hub.leave member).view channel] := by
  simp only [arrivals, subscribed, hears, differ, decide_true, Bool.and_self, if_true, ne_eq,
    not_false_eq_true, List.filterMap_append]
  cases channel with
  | multicast =>
      have others : ((hub.rpcAddress? member).map fun rpc =>
          Event.rpcView (hub.rpcView.left rpc)).toList.filterMap (Event.view? .multicast) = [] := by
        cases hub.rpcAddress? member with
        | none => rfl
        | some rpc => rfl
      rw [others, List.append_nil, view, view, multicastView_leave subscribed]
      split
      · exact (if_neg (View.left_ne _ _)).symm
      · exact (if_pos rfl).symm
  | rpc =>
      have others : (if member ∈ hub.multicastView.members then
          [Event.multicastView (hub.multicastView.left member)] else []).filterMap
            (Event.view? .rpc) = [] := by
        split
        · rfl
        · rfl
      rw [others, List.nil_append, view, view, rpcView_leave subscribed]
      cases hub.rpcAddress? member with
      | none => exact (if_pos rfl).symm
      | some rpc => exact (if_neg (View.left_ne _ _)).symm

/-- Whoever receives events before and after a deed receives the new view of a group, if there is
one. -/
theorem Run.views_arrive (run : Run past hub) (does : hub.Does deed after)
    (before : hub.isSubscriber receiver = true) (still : after.isSubscriber receiver = true)
    (channel : Channel) :
    (hub.arrivals receiver deed).filterMap (Event.view? channel) =
      if after.view channel = hub.view channel then [] else [after.view channel] := by
  have numbered := run.enumerated.numbered
  have isMember : receiver ∈ hub.members.map Member.address :=
    run.addresses ▸ ((run.isSubscriber_iff receiver).mp before).1
  -- Views do not reach who leaves with them, nor one who attaches by this deed.
  have stays : deed.left? ≠ some receiver := by
    rcases (does.isSubscriber_iff run.enumerated receiver).mp still with enrolled | ⟨-, stays⟩
    · exact absurd isMember (does.fresh numbered enrolled)
    · exact stays
  cases does.effect with
  | join joined => exact filterMap_arrivals_joined joined (.inr before) channel
  | @attach member after attached =>
      have differ : receiver ≠ member := by
        rintro rfl
        exact fresh_of_attach numbered attached isMember
      simp [arrivals, differ, view_attach attached]
  | joinRpc present joinedRpc => exact filterMap_arrivals_joinedRpc joinedRpc before channel
  | @leave member subscribed =>
      have differ : receiver ≠ member := fun same => stays (congrArg some same.symm)
      exact filterMap_arrivals_left subscribed before differ channel
  | none quiet alike =>
      have same : after.view channel = hub.view channel := by
        cases channel with
        | multicast => exact alike.multicastView
        | rpc => exact alike.rpcView
      rw [if_pos same]
      cases deed with
      | joined | attached | joinedRpc => exact quiet.elim
      | left member => simp [arrivals, quiet.2]
      | sent sender addressee body => simp [arrivals, Event.view?, apply_ite (List.filterMap _)]
      | isolated | healed | called | read => rfl

/-! ## What has arrived since -/

/-- The view of a group that is given to whoever becomes a member without being in one. -/
def welcome? (before : Hub source handler) (channel : Channel) : Deed source handler → Option View
  | .attached _ => some (before.view channel)
  | _ => none

/-- The views that arrive with a new member at once. -/
theorem Does.welcome (does : before.Does deed after) (enrols : deed.enrolled? = some member)
    (channel : Channel) :
    (before.arrivals member deed).filterMap (Event.view? channel) =
      (before.welcome? channel deed).toList ++
        if after.view channel = before.view channel then [] else [after.view channel] := by
  cases does with
  | join state joined =>
      obtain rfl := Option.some.inj enrols
      exact filterMap_arrivals_joined joined (.inl rfl) channel
  | attach attached =>
      obtain rfl := Option.some.inj enrols
      rw [view_attach attached, if_pos rfl, arrivals, if_pos rfl]
      cases channel with
      | multicast => rfl
      | rpc => rfl
  | _ => contradiction

/-- A subscriber has received the views of a group since it became a member, one after the other. -/
theorem Run.views (run : Run (earlier ++ (before, deed) :: later) hub)
    (enrols : deed.enrolled? = some member) (receives : hub.isSubscriber member = true)
    (channel : Channel) :
    (((before, deed) :: later).flatMap fun entry => entry.1.arrivals member entry.2).filterMap
        (Event.view? channel) =
      (before.welcome? channel deed).toList ++
        changesOf (fun hub => hub.view channel) ((before, deed) :: later) hub := by
  refine run.since (motive := fun since hub => hub.isSubscriber member = true →
    (since.flatMap fun entry => entry.1.arrivals member entry.2).filterMap (Event.view? channel) =
      (before.welcome? channel deed).toList ++ changesOf (fun hub => hub.view channel) since hub)
    (fun run does _ => ?_) (fun {between hub last after} run does induction receives => ?_) receives
  · rw [changesOf_singleton, List.flatMap_singleton]
    exact does.welcome enrols channel
  · have isMember : member ∈ hub.members.map Member.address := by
      rw [run.addresses]
      exact List.mem_filterMap.mpr ⟨(before, deed), by simp, enrols⟩
    have subscribed : hub.isSubscriber member = true := by
      rcases (does.isSubscriber_iff run.enumerated member).mp receives with enrolled | ⟨before, -⟩
      · exact absurd isMember (does.fresh run.enumerated.numbered enrolled)
      · exact before
    rw [changesOf_snoc, List.flatMap_append, List.filterMap_append, induction subscribed,
      List.append_assoc, List.flatMap_singleton, run.views_arrive does subscribed receives channel]

/-- The views of a group since a deed have consecutive numbers. -/
theorem Run.succession (run : Run (earlier ++ (before, deed) :: later) hub) (channel : Channel) :
    View.Succession
      (before.view channel ::
        changesOf (fun hub => hub.view channel) ((before, deed) :: later) hub)
      (hub.view channel) := by
  have goes {past : Chronicle source handler} {hub after : Hub source handler}
      {deed : Deed source handler} (run : Run past hub) (does : hub.Does deed after) :
      after.view channel = hub.view channel ∨
        (after.view channel).id = (hub.view channel).id + 1 :=
    (run.givesWay does channel).imp id And.left
  refine run.since (motive := fun since hub => View.Succession
    (before.view channel :: changesOf (fun hub => hub.view channel) since hub) (hub.view channel))
    (fun run does => ?_) (fun run does induction => ?_)
  · have start : View.Succession [before.view channel] (before.view channel) := ⟨.singleton _, rfl⟩
    rw [changesOf_singleton]
    exact start.next (goes run does)
  · rw [changesOf_snoc, ← List.cons_append]
    exact induction.next (goes run does)

/-- Nobody becomes a member twice. -/
theorem Run.not_enrolled (run : Run (earlier ++ (before, deed) :: later) hub)
    (enrols : deed.enrolled? = some member) : member ∉ enrolledIn earlier := by
  obtain ⟨run, after, does⟩ := run.upTo
  exact run.addresses ▸ does.fresh run.enumerated.numbered enrols

/-- What a process has received has all arrived since it became a member. -/
theorem Run.received_since (run : Run (earlier ++ (before, deed) :: later) hub)
    (enrols : deed.enrolled? = some member) :
    received (earlier ++ (before, deed) :: later) hub member =
      ((before, deed) :: later).flatMap fun entry => entry.1.arrivals member entry.2 := by
  have nothing : earlier.flatMap (fun entry => entry.1.arrivals member entry.2) = [] := by
    refine List.flatMap_eq_nil_iff.mpr fun entry listed => ?_
    have stranger := run.not_enrolled enrols
    obtain ⟨front, back, rfl⟩ := List.append_of_mem listed
    rw [List.append_assoc, List.cons_append] at run
    rw [List.append_cons] at stranger
    refine run.arrivals_eq_nil (.inl fun enrolled => stranger ?_)
    exact ((List.sublist_append_left _ back).filterMap _).mem enrolled
  rw [run.received_eq, List.flatMap_append, nothing, List.nil_append]

/-- What has arrived with somebody who has left had arrived before. -/
theorem Run.received_left (run : Run (earlier ++ (before, .left member) :: later) hub) :
    received (earlier ++ (before, .left member) :: later) hub member =
      received earlier before member := by
  have nothing : ((before, .left member) :: later).flatMap
      (fun entry => entry.1.arrivals member entry.2) = [] := by
    refine List.flatMap_eq_nil_iff.mpr fun entry listed => ?_
    obtain ⟨front, back, split⟩ := List.append_of_mem listed
    -- From the leaving on, it is among what has been done up to each entry.
    have leaving : (before, .left member) ∈ front ++ [entry] := by
      cases front with
      | nil => exact List.mem_singleton.mpr (List.cons.inj split).1
      | cons head rest => exact (List.cons.inj split).1 ▸ List.mem_cons_self
    rw [split, ← List.append_assoc] at run
    refine run.arrivals_eq_nil (.inr ?_)
    rw [List.append_assoc]
    exact List.mem_filterMap.mpr ⟨_, List.mem_append_right earlier leaving, rfl⟩
  rw [run.received_eq, List.flatMap_append, nothing, List.append_nil, run.upTo.1.received_eq]

/-- The views of a group that a process has received. -/
def seen (past : Chronicle source handler) (hub : Hub source handler) (member : Address)
    (channel : Channel) : List View :=
  (received past hub member).filterMap (Event.view? channel)

theorem Run.seen_eq (run : Run (earlier ++ (before, deed) :: later) hub)
    (enrols : deed.enrolled? = some member) (receives : hub.isSubscriber member = true)
    (channel : Channel) :
    seen (earlier ++ (before, deed) :: later) hub member channel =
      (before.welcome? channel deed).toList ++
        changesOf (fun hub => hub.view channel) ((before, deed) :: later) hub := by
  rw [seen, run.received_since enrols, run.views enrols receives]

/-- However a hub has been used and whoever is cut off, a process that still receives events has
joined or attached.  Whoever has joined has received every view of each group since then, with
consecutive numbers up to the current one, and of the multicast group first the one that includes it
for the first time.  Whoever has attached has received the views of that time and then every later
one.  Whoever has left receives nothing more. -/
theorem Run.no_view_missed (run : Run past hub) (member : Address) :
    (hub.isSubscriber member = true → ∃ entry ∈ past,
      (∃ state, entry.2 = .joined member state) ∨ entry.2 = .attached member) ∧
    (∀ earlier before state later, past = earlier ++ (before, .joined member state) :: later →
      hub.isSubscriber member = true →
        (∀ entry ∈ earlier, member ∉ entry.1.multicastView.members) ∧
        member ∉ before.multicastView.members ∧
        (seen past hub member .multicast).head? = some (before.multicastView.joined member) ∧
        ∀ channel,
          seen past hub member channel =
            changesOf (fun hub => hub.view channel) ((before, .joined member state) :: later) hub ∧
          View.Succession (before.view channel :: seen past hub member channel)
            (hub.view channel)) ∧
    (∀ earlier before later, past = earlier ++ (before, .attached member) :: later →
      hub.isSubscriber member = true → ∀ channel,
        seen past hub member channel =
          before.view channel ::
            changesOf (fun hub => hub.view channel) ((before, .attached member) :: later) hub ∧
        View.Succession (seen past hub member channel) (hub.view channel)) ∧
    ∀ earlier before later, past = earlier ++ (before, .left member) :: later →
      received past hub member = received earlier before member := by
  refine ⟨fun receives => ?_, ?_, ?_, ?_⟩
  · obtain ⟨⟨before, deed⟩, listed, enrols⟩ :=
      List.mem_filterMap.mp ((run.isSubscriber_iff member).mp receives).1
    refine ⟨_, listed, ?_⟩
    cases deed with
    | joined other state =>
        obtain rfl := Option.some.inj enrols
        exact .inl ⟨state, rfl⟩
    | attached other =>
        obtain rfl := Option.some.inj enrols
        exact .inr rfl
    | _ => contradiction
  · rintro earlier before state later rfl receives
    have stranger := run.not_enrolled rfl
    refine ⟨fun entry listed isListed => stranger ?_,
      fun isListed => stranger (run.upTo.1.enrolled_of_listed isListed), ?_, fun channel => ?_⟩
    · obtain ⟨front, back, rfl⟩ := List.append_of_mem listed
      rw [List.append_assoc] at run
      have enrolled := run.upTo.1.enrolled_of_listed isListed
      exact ((List.sublist_append_left front _).filterMap _).mem enrolled
    · rw [seen, run.received_since rfl]
      simp [arrivals, Event.view?]
    · have views := run.seen_eq rfl receives channel
      rw [views]
      exact ⟨rfl, run.succession channel⟩
  · rintro earlier before later rfl receives channel
    have views := run.seen_eq rfl receives channel
    rw [views]
    exact ⟨rfl, run.succession channel⟩
  · rintro earlier before later rfl
    exact run.received_left

/-- Somebody who is cut off as soon as it has joined receives the views all the same. -/
theorem Run.no_view_missed_cut_off :
    ∃ (past : Chronicle Unit Unit) (hub before : Hub Unit Unit),
      Run past hub ∧ hub.isReachable ⟨.multicast, 2⟩ = false ∧ hub.multicastView.id = 4 ∧
        View.Succession (before.multicastView :: seen past hub ⟨.multicast, 2⟩ .multicast)
          hub.multicastView ∧
        received past hub ⟨.multicast, 1⟩ = [.multicastView ⟨1, [⟨.multicast, 1⟩]⟩,
          .multicastView ⟨2, [⟨.multicast, 1⟩, ⟨.multicast, 2⟩]⟩] := by
  obtain ⟨past, hub, run, cut, number, subscribed, ⟨earlier, before, later, joined⟩,
      ⟨earlier', before', later', left, had⟩⟩ :
      ∃ (past : Chronicle Unit Unit) (hub : Hub Unit Unit), Run past hub ∧
        hub.isReachable ⟨.multicast, 2⟩ = false ∧ hub.multicastView.id = 4 ∧
        hub.isSubscriber ⟨.multicast, 2⟩ = true ∧
        (∃ earlier before later, past = earlier ++ (before, .joined ⟨.multicast, 2⟩ ()) :: later) ∧
        ∃ earlier before later, past = earlier ++ (before, .left ⟨.multicast, 1⟩) :: later ∧
          received earlier before ⟨.multicast, 1⟩ = [.multicastView ⟨1, [⟨.multicast, 1⟩]⟩,
            .multicastView ⟨2, [⟨.multicast, 1⟩, ⟨.multicast, 2⟩]⟩] :=
    ⟨_, _, Run.begin.next (.join () rfl)
      |>.next (.join () rfl)
      |>.next (.isolate ⟨.multicast, 2⟩)
      |>.next (.leave ⟨.multicast, 1⟩ (by decide))
      |>.next (.join () rfl),
      rfl, rfl, rfl, ⟨[_], _, [_, _, _], rfl⟩, [_, _, _], _, [_], rfl, rfl⟩
  obtain ⟨-, joins, -⟩ := run.no_view_missed ⟨.multicast, 2⟩
  obtain ⟨-, -, -, views⟩ := joins _ _ _ _ joined subscribed
  obtain ⟨-, -, -, leaves⟩ := run.no_view_missed ⟨.multicast, 1⟩
  exact ⟨past, hub, before, run, cut, number, (views .multicast).2,
    (leaves _ _ _ left).trans had⟩

end Hub

end AuctionHouse
