import AuctionHouse.Proofs.Cast
import AuctionHouse.Proofs.Holdings

/-!
# Who answers requests

After a course of events that begins with a hub without processes the members of the RPC group are
the addresses under which somebody answers, and under each of them it is the node that was given
this address.  So nobody but nodes answers, whoever comes and goes and whatever the nodes hold.
-/

namespace AuctionHouse.Cluster

variable {cluster after : Cluster} {past : List (Cluster × Occurrence)}
  {occurrence : Occurrence}

/-- Under every address in the view of the RPC group, and under no other one, the node answers that
has been given this address. -/
structure Engaged (cluster : Cluster) : Prop where
  view : cluster.hub.rpcView.members = cluster.hub.handlers.map Prod.fst
  distinct : cluster.hub.rpcView.members.Nodup
  nodes : ∀ entry ∈ cluster.hub.handlers, ∃ multicast ∈ cluster.nodes.map Node.address,
    entry.2 = .node multicast ∧ cluster.hub.rpcAddress? multicast = some entry.1

theorem Engaged.behind (engaged : cluster.Engaged) {rpc : Address}
    (listed : rpc ∈ cluster.hub.rpcView.members) :
    ∃ multicast ∈ cluster.nodes.map Node.address,
      cluster.hub.nodeBehind? rpc = some multicast ∧
        cluster.hub.rpcAddress? multicast = some rpc := by
  rw [engaged.view] at listed
  obtain ⟨⟨rpc, answerer⟩, answers, rfl⟩ := List.mem_map.mp listed
  obtain ⟨multicast, isNode, rfl, given⟩ := engaged.nodes _ answers
  have found := find?_of_nodup (engaged.view ▸ engaged.distinct) answers
  exact ⟨multicast, isNode, by rw [Hub.nodeBehind?, found], given⟩

theorem Engaged.manned (engaged : cluster.Engaged)
    (nodes : (cluster.nodes.map Node.address).Nodup) : cluster.Manned where
  nodes := nodes
  view := engaged.distinct
  answered := by
    intro rpc listed
    obtain ⟨multicast, isNode, behind, -⟩ := engaged.behind listed
    obtain ⟨node, present, rfl⟩ := List.mem_map.mp isNode
    exact ⟨node, present, behind⟩
  singly := by
    intro left isLeft right isRight same
    obtain ⟨multicast, -, behind, given⟩ := engaged.behind isLeft
    obtain ⟨other, -, behind', given'⟩ := engaged.behind isRight
    rw [behind, behind'] at same
    obtain rfl := Option.some.inj same
    exact Option.some.inj (given.symm.trans given')

/-! ## What engages and dismisses nobody -/

theorem Engaged.onward (engaged : cluster.Engaged) (view : after.hub.rpcView = cluster.hub.rpcView)
    (handlers : after.hub.handlers = cluster.hub.handlers)
    (answers : ∀ address, after.hub.rpcAddress? address = cluster.hub.rpcAddress? address)
    (nodes : ∀ address ∈ cluster.nodes.map Node.address, address ∈ after.nodes.map Node.address) :
    after.Engaged where
  view := by rw [view, handlers, engaged.view]
  distinct := view ▸ engaged.distinct
  nodes := by
    intro entry listed
    rw [handlers] at listed
    obtain ⟨multicast, isNode, answerer, given⟩ := engaged.nodes entry listed
    exact ⟨multicast, nodes multicast isNode, answerer, (answers multicast).trans given⟩

theorem Engaged.unmoved (engaged : cluster.Engaged) (unmoved : cluster.Unmoved after) :
    after.Engaged :=
  engaged.onward unmoved.view unmoved.handlers (Hub.rpcAddress?_congr unmoved.standing)
    fun _ isNode => unmoved.addresses ▸ isNode

/-- A process that comes along answers no requests yet. -/
theorem Engaged.attach (engaged : cluster.Engaged) (proper : cluster.hub.Proper)
    {address : Address} {hub : Hub StateSource Answerer}
    (attached : cluster.hub.attach? = some (address, hub)) (coordinators : List Coordinator) :
    Engaged { cluster with hub, coordinators } := by
  have fresh := Hub.fresh_of_attach proper.numbered attached
  have standing := Hub.standing_attach proper.numbered attached
  refine engaged.onward ?_ ?_ (Hub.rpcAddress?_of_newcomer fresh standing) fun _ => id
  all_goals
    obtain ⟨-, -, rfl⟩ := Hub.attach?_eq_some attached
    rfl

theorem Engaged.join (engaged : cluster.Engaged) (proper : cluster.hub.Proper) {address : Address}
    (joined : cluster.joinNode? = some (address, after)) : after.Engaged := by
  obtain ⟨hub, join, rfl⟩ := joinNode?_eq_some joined
  have fresh := Hub.fresh_of_join proper.numbered join
  have standing := Hub.standing_join proper.numbered join
  refine engaged.onward ?_ ?_ (Hub.rpcAddress?_of_newcomer fresh standing) fun other isNode => ?_
  · obtain ⟨-, -, rfl⟩ := Hub.join?_eq_some join
    rfl
  · obtain ⟨-, -, rfl⟩ := Hub.join?_eq_some join
    rfl
  · rw [List.map_append]
    exact List.mem_append_left _ isNode

theorem Engaged.announce (engaged : cluster.Engaged) {address rpc : Address}
    {hub : Hub StateSource Answerer} (announced : cluster.hub.announce address rpc = .ok hub) :
    (cluster.withHub hub).Engaged := by
  refine engaged.onward ?_ (Hub.handlers_announce announced)
    (Hub.rpcAddress?_congr (Hub.standing_announce announced)) fun _ => id
  rw [hub_withHub, Hub.announce_eq_ok announced]
  rfl

theorem Engaged.withPhase (engaged : cluster.Engaged) (address : Address) (phase : NodePhase) :
    (cluster.modifyNode address fun node => { node with phase }).Engaged :=
  engaged.onward rfl rfl (fun _ => rfl) fun _ isNode =>
    (addresses_withPhase cluster address phase).symm ▸ isNode

/-! ## Joining and leaving the RPC group -/

/-- Whoever joins the RPC group is given an address of its own and answers under it. -/
theorem Engaged.enter (engaged : cluster.Engaged) (proper : cluster.hub.Proper) {node : Node}
    {rpc : Address} {hub : Hub StateSource Answerer} (listed : node ∈ cluster.nodes)
    (listens : cluster.hub.Listens node.address)
    (first : cluster.hub.rpcAddress? node.address = none)
    (joinRpc : cluster.hub.joinRpc? node.address (.node node.address) = some (rpc, hub)) :
    (cluster.withHub hub).Engaged := by
  have view := Hub.rpcView_joinRpc joinRpc
  have handlers := Hub.handlers_joinRpc joinRpc
  have standing := Hub.standing_joinRpc joinRpc
  have unused := proper.numbered.unused_of_joinRpc joinRpc
  constructor
  case view =>
    rw [hub_withHub, view, handlers, List.map_append, ← engaged.view]
    rfl
  case distinct =>
    rw [hub_withHub, view]
    exact List.nodup_append'.mpr ⟨engaged.distinct, List.nodup_singleton _,
      List.disjoint_singleton.mpr unused⟩
  case nodes =>
    intro entry answers
    rw [hub_withHub, handlers] at answers
    rcases List.mem_append.mp answers with old | new
    · obtain ⟨multicast, isNode, answerer, given⟩ := engaged.nodes entry old
      have differ : multicast ≠ node.address := by
        rintro rfl
        rw [first] at given
        contradiction
      refine ⟨multicast, isNode, answerer, ?_⟩
      rw [hub_withHub, Hub.rpcAddress?_eq, standing, if_neg differ, ← Hub.rpcAddress?_eq, given]
    · obtain rfl := List.mem_singleton.mp new
      obtain ⟨before, stands⟩ := listens
      refine ⟨node.address, List.mem_map_of_mem listed, rfl, ?_⟩
      rw [hub_withHub, Hub.rpcAddress?_eq, standing, if_pos rfl, stands]
      rfl

/-- Whoever leaves takes its RPC address along, and all others go on answering under theirs. -/
theorem Engaged.leave (engaged : cluster.Engaged) (address : Address) :
    (cluster.withHub (cluster.hub.leave address)).Engaged := by
  by_cases receives : cluster.hub.isSubscriber address = true
  case neg =>
    rw [Hub.leave, if_neg receives]
    exact engaged
  have view := Hub.rpcView_leave receives
  have handlers := Hub.handlers_leave receives
  have answers := Hub.rpcAddress?_leave receives
  have stays {entry : Address × Answerer} (listed : entry ∈ cluster.hub.handlers)
      (differ : cluster.hub.rpcAddress? address ≠ some entry.1) :
      ∃ multicast ∈ cluster.nodes.map Node.address, entry.2 = .node multicast ∧
        (cluster.hub.leave address).rpcAddress? multicast = some entry.1 := by
    obtain ⟨multicast, isNode, answerer, given⟩ := engaged.nodes entry listed
    have other : multicast ≠ address := by
      rintro rfl
      exact differ given
    exact ⟨multicast, isNode, answerer, by rw [answers, if_neg other, given]⟩
  cases own : cluster.hub.rpcAddress? address with
  | none =>
      simp only [own] at view handlers
      refine ⟨?_, view ▸ engaged.distinct, fun entry listed => ?_⟩
      · rw [hub_withHub, view, handlers, engaged.view]
      · rw [hub_withHub, handlers] at listed
        exact stays listed (by simp [own])
  | some rpc =>
      simp only [own] at view handlers
      refine ⟨?_, ?_, fun entry listed => ?_⟩
      · rw [hub_withHub, view, handlers, View.left, engaged.view, List.filter_map]
        rfl
      · rw [hub_withHub, view]
        exact engaged.distinct.filter _
      · rw [hub_withHub, handlers] at listed
        obtain ⟨wasListed, differ⟩ := List.mem_filter.mp listed
        refine stays wasListed fun same => ?_
        rw [own] at same
        exact of_decide_eq_true differ (Option.some.inj same).symm

/-! ## All steps -/

theorem Happens.engaged (happens : cluster.Happens occurrence after) (cast : Cast past cluster)
    (engaged : cluster.Engaged) : after.Engaged := by
  have quietly (quiet : occurrence.isQuiet = true) : after.Engaged :=
    engaged.unmoved (happens.unmoved quiet)
  cases happens with
  | attach attached => exact engaged.attach cast.proper attached _
  | join joined => exact engaged.join cast.proper joined
  | enter listed joining first joinRpc =>
      exact engaged.enter cast.proper listed (cast.joining _ listed joining).1 first joinRpc
  | announce _ _ _ announced => exact (engaged.announce announced).withPhase _ _
  | leave => exact engaged.leave _
  | stop => exact engaged.withPhase _ _
  | «try» | isolate | heal | ask | command | track | work => exact quietly rfl

theorem Course.engaged {settings : Settings} {seed : Option (Option (List UInt8))}
    {accounts : Accounts} (course : (fresh settings seed accounts).Course past cluster) :
    cluster.Engaged := by
  induction course with
  | begin => exact ⟨rfl, List.nodup_nil, nofun⟩
  | next course happens induction => exact happens.engaged course.cast induction

/-- Whatever a hub without processes comes to, the members of its RPC group are nodes. -/
theorem Course.manned {settings : Settings} {seed : Option (Option (List UInt8))}
    {accounts : Accounts} (course : (fresh settings seed accounts).Course past cluster) :
    cluster.Manned :=
  course.engaged.manned course.cast.nodes

end AuctionHouse.Cluster
