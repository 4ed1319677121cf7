import AuctionHouse.Proofs.Standing

/-!
# Hubs in order

In a hub every process has one membership, under a number given out before, and the RPC address of a
process is nobody else's and is in the view as long as the process receives events.  Each operation
keeps it so, whoever uses the hub.
-/

namespace AuctionHouse.Hub

variable {source handler : Type} {hub after : Hub source handler} {address other rpc : Address}

/-- Every process has one membership, and every RPC address in use is the address of one process
that receives events, and is in the view. -/
structure Proper (hub : Hub source handler) : Prop where
  distinct : (hub.members.map Member.address).Nodup
  numbered : hub.Numbered
  answering : ∀ {address : Address} {receives : Bool} {rpc : Address},
    hub.standing address = some (receives, some rpc) →
      receives = true ∧ rpc ∈ hub.rpcView.members
  singly : ∀ {left right rpc : Address}, hub.rpcAddress? left = some rpc →
    hub.rpcAddress? right = some rpc → left = right

theorem proper_empty : (empty : Hub source handler).Proper where
  distinct := List.nodup_nil
  numbered := ⟨nofun, nofun, nofun⟩
  answering := nofun
  singly := nofun

/-- Whoever has an RPC address receives events, and the address is in the view. -/
theorem Proper.of_rpcAddress? (proper : hub.Proper) (answers : hub.rpcAddress? address = some rpc) :
    hub.Listens address ∧ rpc ∈ hub.rpcView.members := by
  rw [rpcAddress?_eq] at answers
  obtain ⟨⟨receives, own⟩, stands, rfl⟩ := Option.bind_eq_some_iff.mp answers
  obtain ⟨rfl, listed⟩ := proper.answering stands
  exact ⟨⟨_, stands⟩, listed⟩

@[simp]
theorem addresses_deliver (hub : Hub source handler) (event : Event) (chosen : Address → Bool) :
    (hub.deliver event chosen).members.map Member.address = hub.members.map Member.address := by
  rw [deliver_eq, addresses_withQueues]

@[simp]
theorem addresses_relocate (hub : Hub source handler) (address : Address)
    (receives : Bool → Bool) (rpc : Option Address) :
    (hub.relocate address receives rpc).members.map Member.address =
      hub.members.map Member.address := by
  simp only [relocate, modifyMember, List.map_map]
  refine List.map_congr_left fun member _ => ?_
  simp only [Function.comp_apply]
  split
  · rfl
  · rfl

/-- No number comes into use where addresses and views only get fewer. -/
theorem Numbered.fewer (numbered : hub.Numbered)
    (members : after.members.map Member.address = hub.members.map Member.address)
    (lastId : after.lastId = hub.lastId)
    (view : ∀ rpc ∈ after.rpcView.members, rpc ∈ hub.rpcView.members)
    (handlers : ∀ entry ∈ after.handlers, entry ∈ hub.handlers) : after.Numbered where
  members := by
    intro member listed
    have named : member.address ∈ hub.members.map Member.address :=
      members ▸ List.mem_map_of_mem listed
    obtain ⟨old, isMember, same⟩ := List.mem_map.mp named
    rw [lastId, ← same]
    exact numbered.members old isMember
  view := fun rpc listed => lastId ▸ numbered.view rpc (view rpc listed)
  handlers := fun entry listed => lastId ▸ numbered.handlers entry (handlers entry listed)

/-- A hub stays in order as long as everybody stays where they stand. -/
theorem Proper.congr (proper : hub.Proper) (numbered : after.Numbered)
    (members : after.members.map Member.address = hub.members.map Member.address)
    (standing : ∀ address, after.standing address = hub.standing address)
    (view : after.rpcView = hub.rpcView) : after.Proper where
  distinct := members ▸ proper.distinct
  numbered := numbered
  answering := fun stands => view ▸ proper.answering (standing _ ▸ stands)
  singly := by
    intro left right rpc isLeft isRight
    rw [rpcAddress?_eq, standing, ← rpcAddress?_eq] at isLeft isRight
    exact proper.singly isLeft isRight

theorem Proper.withQueues (proper : hub.Proper) (queue : Member source → List Event) :
    (hub.withQueues queue).Proper :=
  proper.congr (proper.numbered.withQueues queue) (hub.addresses_withQueues queue)
    (hub.standing_withQueues queue) rfl

theorem Proper.deliver (proper : hub.Proper) (event : Event) (chosen : Address → Bool) :
    (hub.deliver event chosen).Proper := by
  rw [deliver_eq]
  exact proper.withQueues _

theorem Proper.isolate (proper : hub.Proper) (address : Address) : (hub.isolate address).Proper :=
  proper.congr (proper.numbered.fewer rfl rfl (fun _ => id) fun _ => id) rfl (fun _ => rfl) rfl

theorem Proper.heal (proper : hub.Proper) (address : Address) : (hub.heal address).Proper :=
  proper.congr (proper.numbered.fewer rfl rfl (fun _ => id) fun _ => id) rfl (fun _ => rfl) rfl

theorem Proper.announce (proper : hub.Proper) (announced : hub.announce address rpc = .ok after) :
    after.Proper := by
  rw [announce_eq_ok announced]
  exact proper.deliver _ _

theorem Numbered.enrolled (numbered : hub.Numbered) {member : Member source}
    (bound : hub.lastId.toNat + 1 < UInt64.size) (named : member.address.id = hub.lastId + 1) :
    (hub.enrolled member).Numbered := by
  have next {id : UInt64} (used : id ≤ hub.lastId) : id ≤ hub.lastId + 1 :=
    UInt64.le_of_lt (UInt64.lt_of_le_of_lt used (lt_next bound))
  refine ⟨fun other listed => ?_, fun rpc listed => next (numbered.view rpc listed),
    fun entry listed => next (numbered.handlers entry listed)⟩
  rcases List.mem_append.mp listed with old | new
  · exact next (numbered.members other old)
  · rw [List.mem_singleton.mp new, named]
    exact UInt64.le_refl _

/-- Whoever comes along has an address of its own. -/
theorem distinct_enrolled (distinct : (hub.members.map Member.address).Nodup)
    {member : Member source} (fresh : member.address ∉ hub.members.map Member.address) :
    ((hub.enrolled member).members.map Member.address).Nodup := by
  rw [Hub.enrolled, List.map_append, List.map_singleton]
  exact List.nodup_append'.mpr ⟨distinct, List.nodup_singleton _,
    List.disjoint_singleton.mpr fresh⟩

/-- Whoever comes along does not answer requests yet. -/
theorem Proper.enrolled (proper : hub.Proper) {member : Member source}
    (bound : hub.lastId.toNat + 1 < UInt64.size)
    (named : member.address = ⟨.multicast, hub.lastId + 1⟩) (mute : member.rpc = none) :
    (hub.enrolled member).Proper := by
  have fresh := proper.numbered.fresh bound .multicast
  have stands := standing_enrolled fresh named
  have answers {address rpc : Address}
      (answers : (hub.enrolled member).rpcAddress? address = some rpc) :
      hub.rpcAddress? address = some rpc := by
    rw [rpcAddress?_eq, stands] at answers
    split at answers
    · simp [mute] at answers
    · rwa [rpcAddress?_eq]
  constructor
  case distinct => exact distinct_enrolled proper.distinct (named ▸ fresh)
  case numbered => exact proper.numbered.enrolled bound (by rw [named])
  case answering =>
    intro address receives rpc standing
    rw [stands] at standing
    split at standing
    · simp [mute] at standing
    · exact proper.answering standing
  case singly =>
    intro left right rpc isLeft isRight
    exact proper.singly (answers isLeft) (answers isRight)

theorem Proper.attach (proper : hub.Proper) (attached : hub.attach? = some (address, after)) :
    after.Proper := by
  obtain ⟨bound, rfl, rfl⟩ := attach?_eq_some attached
  exact proper.enrolled bound rfl rfl

theorem Proper.join (proper : hub.Proper) {state : source}
    (join : hub.join? state = some (address, after)) : after.Proper := by
  obtain ⟨bound, rfl, isJoined⟩ := join?_eq_some join
  have enrolled : (hub.enrolled (newcomer state ⟨.multicast, hub.lastId + 1⟩ none)).Proper :=
    proper.enrolled bound rfl rfl
  rw [isJoined]
  refine Proper.deliver ?_ _ _
  exact enrolled.congr (enrolled.numbered.fewer rfl rfl (fun _ => id) fun _ => id) rfl
    (fun _ => rfl) rfl

theorem rpcView_joinRpc {answer : handler}
    (joinRpc : hub.joinRpc? address answer = some (rpc, after)) :
    after.rpcView = hub.rpcView.joined rpc := by
  obtain ⟨-, -, rfl⟩ := joinRpc?_eq_some joinRpc
  rfl

theorem addresses_joinRpc {answer : handler}
    (joinRpc : hub.joinRpc? address answer = some (rpc, after)) :
    after.members.map Member.address = hub.members.map Member.address := by
  obtain ⟨-, -, rfl⟩ := joinRpc?_eq_some joinRpc
  refine (addresses_relocate _ address (fun receives => receives) (some rpc)).trans ?_
  exact addresses_deliver _ _ _

theorem Numbered.of_joinRpc (numbered : hub.Numbered) {answer : handler}
    (joinRpc : hub.joinRpc? address answer = some (rpc, after)) : after.Numbered := by
  have members := addresses_joinRpc joinRpc
  obtain ⟨bound, isRpc, rfl⟩ := joinRpc?_eq_some joinRpc
  have next {id : UInt64} (used : id ≤ hub.lastId) : id ≤ hub.lastId + 1 :=
    UInt64.le_of_lt (UInt64.lt_of_le_of_lt used (lt_next bound))
  have base : Numbered { hub with
      lastId := hub.lastId + 1
      handlers := hub.handlers ++ [(rpc, answer)]
      rpcView := hub.rpcView.joined rpc } := by
    refine ⟨fun member listed => next (numbered.members member listed), fun other listed => ?_,
      fun entry listed => ?_⟩
    · rcases List.mem_append.mp listed with old | new
      · exact next (numbered.view other old)
      · rw [List.mem_singleton.mp new, isRpc]
        exact UInt64.le_refl _
    · rcases List.mem_append.mp listed with old | new
      · exact next (numbered.handlers entry old)
      · rw [List.mem_singleton.mp new, isRpc]
        exact UInt64.le_refl _
  exact base.fewer members rfl (fun _ => id) fun _ => id

theorem Numbered.unused_of_joinRpc (numbered : hub.Numbered) {answer : handler}
    (joinRpc : hub.joinRpc? address answer = some (rpc, after)) :
    rpc ∉ hub.rpcView.members := by
  obtain ⟨bound, isRpc, -⟩ := joinRpc?_eq_some joinRpc
  intro used
  have below := UInt64.lt_of_le_of_lt (numbered.view rpc used) (lt_next bound)
  rw [isRpc] at below
  exact UInt64.lt_irrefl _ below

/-- The RPC address that somebody is given is nobody else's. -/
theorem Proper.joinRpc (proper : hub.Proper) {answer : handler} (listens : hub.Listens address)
    (joinRpc : hub.joinRpc? address answer = some (rpc, after)) : after.Proper := by
  have stands := standing_joinRpc joinRpc
  have view := rpcView_joinRpc joinRpc
  obtain ⟨before, isBefore⟩ := listens
  have unused := proper.numbered.unused_of_joinRpc joinRpc
  have given {other under : Address} (answers : after.rpcAddress? other = some under) :
      (other = address ∧ under = rpc) ∨
        (hub.rpcAddress? other = some under ∧ under ∈ hub.rpcView.members) := by
    rw [rpcAddress?_eq, stands] at answers
    split at answers
    · rename_i same
      rw [same, isBefore] at answers
      exact .inl ⟨same, (Option.some.inj answers).symm⟩
    · obtain ⟨⟨receives, own⟩, standing, rfl⟩ := Option.bind_eq_some_iff.mp answers
      refine .inr ⟨?_, (proper.answering standing).2⟩
      rw [rpcAddress?_eq, standing]
      rfl
  constructor
  case distinct =>
    rw [addresses_joinRpc joinRpc]
    exact proper.distinct
  case numbered => exact proper.numbered.of_joinRpc joinRpc
  case answering =>
    intro other receives under standing
    rw [stands] at standing
    rw [view]
    split at standing
    · rename_i same
      rw [same, isBefore] at standing
      obtain ⟨rfl, isUnder⟩ := Prod.mk.inj (Option.some.inj standing)
      obtain rfl := Option.some.inj isUnder
      exact ⟨rfl, List.mem_append_right _ (List.mem_singleton_self _)⟩
    · obtain ⟨receives, listed⟩ := proper.answering standing
      exact ⟨receives, List.mem_append_left _ listed⟩
  case singly =>
    intro left right under isLeft isRight
    rcases given isLeft with ⟨rfl, rfl⟩ | ⟨leftBefore, used⟩
    · rcases given isRight with ⟨rfl, -⟩ | ⟨-, used⟩
      · rfl
      · exact absurd used unused
    · rcases given isRight with ⟨-, rfl⟩ | ⟨rightBefore, -⟩
      · exact absurd used unused
      · exact proper.singly leftBefore rightBefore

theorem addresses_silenced (hub : Hub source handler) (address : Address) :
    (hub.silenced address).members.map Member.address = hub.members.map Member.address := by
  refine Eq.trans ?_ (hub.addresses_relocate address (fun _ => false) none)
  rw [silenced]
  split
  · exact addresses_deliver _ _ _
  · rfl

theorem addresses_leave (receives : hub.isSubscriber address = true) :
    (hub.leave address).members.map Member.address = hub.members.map Member.address := by
  rw [leave_of_subscriber receives, ← addresses_silenced hub address]
  cases hub.rpcAddress? address with
  | none => rfl
  | some rpc => exact addresses_deliver _ _ _

theorem silenced_frame (hub : Hub source handler) (address : Address) :
    (hub.silenced address).lastId = hub.lastId ∧
      (hub.silenced address).isolated = hub.isolated := by
  rw [silenced]
  split
  · exact ⟨rfl, rfl⟩
  · exact ⟨rfl, rfl⟩

/-- Leaving gives out no number and does not change who is cut off. -/
theorem leave_frame (receives : hub.isSubscriber address = true) :
    (hub.leave address).lastId = hub.lastId ∧ (hub.leave address).isolated = hub.isolated := by
  rw [leave_of_subscriber receives]
  cases hub.rpcAddress? address with
  | none => exact hub.silenced_frame address
  | some rpc => exact hub.silenced_frame address

theorem Numbered.leave (numbered : hub.Numbered) (receives : hub.isSubscriber address = true) :
    (hub.leave address).Numbered := by
  refine numbered.fewer (addresses_leave receives) (leave_frame receives).1 ?_ ?_
  · intro other listed
    rw [rpcView_leave receives] at listed
    split at listed
    · exact List.mem_of_mem_filter listed
    · exact listed
  · intro entry listed
    rw [handlers_leave receives] at listed
    split at listed
    · exact List.mem_of_mem_filter listed
    · exact listed

/-- The RPC addresses of those that stay are still in the view. -/
theorem Proper.leave (proper : hub.Proper) (address : Address) : (hub.leave address).Proper := by
  by_cases receives : hub.isSubscriber address = true
  case neg =>
    rw [Hub.leave, if_neg receives]
    exact proper
  have stands := standing_leave receives
  have stays {other under : Address} {receives : Bool}
      (standing : (hub.leave address).standing other = some (receives, some under)) :
      other ≠ address ∧ hub.standing other = some (receives, some under) := by
    rw [stands] at standing
    split at standing
    · obtain ⟨-, -, gone⟩ := Option.map_eq_some_iff.mp standing
      simp at gone
    · rename_i differ
      exact ⟨differ, standing⟩
  have answers {other under : Address}
      (answers : (hub.leave address).rpcAddress? other = some under) :
      hub.rpcAddress? other = some under := by
    rw [rpcAddress?_leave receives] at answers
    split at answers
    · contradiction
    · exact answers
  constructor
  case distinct =>
    rw [addresses_leave receives]
    exact proper.distinct
  case numbered => exact proper.numbered.leave receives
  case answering =>
    intro other receives' under standing
    obtain ⟨differ, before⟩ := stays standing
    obtain ⟨subscribed, listed⟩ := proper.answering before
    refine ⟨subscribed, ?_⟩
    rw [rpcView_leave receives]
    cases own : hub.rpcAddress? address with
    | none => exact listed
    | some rpc =>
        refine List.mem_filter.mpr ⟨listed, decide_eq_true fun same => differ ?_⟩
        have isUnder : hub.rpcAddress? other = some under := by
          rw [rpcAddress?_eq, before]
          rfl
        exact proper.singly isUnder (same ▸ own)
  case singly =>
    intro left right rpc isLeft isRight
    exact proper.singly (answers isLeft) (answers isRight)

end AuctionHouse.Hub
