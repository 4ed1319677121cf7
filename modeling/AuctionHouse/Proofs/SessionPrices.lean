import AuctionHouse.Cluster.Client
import AuctionHouse.Proofs.Agreement
import AuctionHouse.Proofs.Correlation
import AuctionHouse.Proofs.Holdings

/-!
# Prices of auctions that are opened in sessions

A client may give any pattern of bits for a price.  A session lets nothing through that is not above
zero when an auction is opened, and a bid counts only if it beats a price: so as long as auctions
are opened in sessions and no seed file is read, every price on every node is a number and not below
zero, and every reply equals itself.
-/

namespace AuctionHouse

/-- A price that is a number and not below zero. -/
structure Price.IsAmount (price : Price) : Prop where
  number : price.isNaN = false
  nonneg : ¬price < .zero

theorem Price.isAmount_atLeastZero (price : Price) : price.atLeastZero.IsAmount := by
  unfold atLeastZero
  split
  · rename_i above
    exact ⟨above.2.1, fun below => zero.lt_irrefl (lt_trans above below)⟩
  · exact ⟨by decide, by decide⟩

/-- What beats an amount is an amount. -/
theorem Price.IsAmount.of_lt {low high : Price} (amount : low.IsAmount) (beats : low < high) :
    high.IsAmount :=
  ⟨beats.2.1, fun below => amount.nonneg (lt_trans beats below)⟩

/-- Both prices of every auction of a state are amounts, and its texts are short enough to
travel. -/
def Snapshot.InAmounts (snapshot : Snapshot) : Prop :=
  ∀ row ∈ snapshot.auctions.rows,
    row.2.Storable ∧ row.2.currentPrice.IsAmount ∧ row.2.reservePrice.IsAmount

/-! ## What is done in sessions -/

/-- What a client does in a session. -/
inductive ClientAction where
  /-- A seller opens an auction. -/
  | create (startPrice : Price) (description : String) (minPrice : Price)
  /-- A seller closes an auction. -/
  | close (id : AuctionId)
  /-- A bidder bids. -/
  | bid (id : AuctionId) (amount : Price)
  /-- A bidder looks at the table. -/
  | listings

namespace ClientAction

/-- The cluster after a client has done something. -/
def perform (cluster : Cluster) (client : Client) (now : Nat) : ClientAction → Cluster
  | .create startPrice description minPrice =>
    (cluster.sellerCreate client now startPrice description minPrice).2
  | .close id => (cluster.sellerClose client now id).2
  | .bid id amount => (cluster.bidderBid client now id amount).2
  | .listings => (cluster.bidderListings client now).2

/-- What the coordinator is asked to do when a user does something. -/
def operation (user : String) : ClientAction → Operation
  | .create startPrice description minPrice =>
    .create user startPrice.atLeastZero description minPrice.atLeastZero
  | .close id => .close user id
  | .bid id amount => .bid id amount user
  | .listings => .listings

theorem perform_eq (cluster : Cluster) (client : Client) (now : Nat) (action : ClientAction) :
    action.perform cluster client now =
      ((action.operation client.session.user).perform (cluster.touch client now)
        client.coordinator).2 := by
  cases action with
  | _ => rfl

end ClientAction

/-- What coordinators are asked to do on behalf of clients with sessions, or to compare
fingerprints. -/
def Operation.InSession (operation : Operation) : Prop :=
  operation = .verify ∨ ∃ (user : String) (action : ClientAction), operation = action.operation user

namespace Replica

variable {replica : Replica} {accounts : Accounts} {operation : Operation}

/-- Prices remain amounts. -/
theorem inAmounts_serve (inSession : operation.InSession)
    (storable : (operation.request accounts).Storable) (held : replica.snapshot.InAmounts) :
    (replica.serve (operation.request accounts)).2.snapshot.InAmounts := by
  have texts := storable_serve (fun row member => (held row member).1) storable
  refine fun row member => ⟨texts row member, ?_⟩
  rcases mem_serve member with old | opened |
    ⟨auction, amount, name, email, listed, beats, -, raised⟩
  · exact (held row old).2
  · rcases inSession with rfl | ⟨user, action, rfl⟩
    · contradiction
    · cases action with
      | create startPrice description minPrice =>
          rw [← Request.addAuction.inj opened]
          exact ⟨startPrice.isAmount_atLeastZero, minPrice.isAmount_atLeastZero⟩
      | _ => contradiction
  · obtain ⟨current, reserve⟩ := (held (row.1, auction) listed).2
    rw [raised]
    exact ⟨current.of_lt beats, reserve⟩

/-- A replica whose prices are amounts gives replies that equal themselves. -/
theorem beq_self_of_inAmounts (held : replica.snapshot.InAmounts) {request : Request}
    {reply : Reply} (served : (replica.serve request).1 = .ok reply) : (reply == reply) = true := by
  refine reply.beq_self_iff.mpr ?_
  rintro auction rfl
  obtain ⟨requester, id, -, listed⟩ := listed_of_removed served
  obtain ⟨current, reserve⟩ := (held (id, auction) listed).2
  exact ⟨current.number, reserve.number⟩

end Replica

namespace Cluster

/-- What a cluster without a seed file can come to when auctions are opened and bids are made in
sessions only.  A client does something in one go; or the request that it leads to, or one for the
fingerprint, goes around on its own, with whatever happens before and after it; or anything else
happens: nodes start and stop, addresses are cut off and connected again, commands to repair a node
are given and obeyed, and clients come and go. -/
inductive Traded (settings : Settings) (accounts : Accounts) : Cluster → Prop
  | begin : Traded settings accounts (fresh settings none accounts)
  | act {cluster : Cluster} (traded : Traded settings accounts cluster) (client : Client)
      (now : Nat) (action : ClientAction)
      (storable : ((action.operation client.session.user).request cluster.accounts).Storable) :
      Traded settings accounts (action.perform cluster client now)
  | ask {cluster : Cluster} (traded : Traded settings accounts cluster) (me : Address)
      {operation : Operation} (inSession : operation.InSession)
      (storable : (operation.request cluster.accounts).Storable) :
      Traded settings accounts (cluster.callAll me (operation.request cluster.accounts)).2
  | happen {cluster after : Cluster} {occurrence : Occurrence}
      (traded : Traded settings accounts cluster) (happens : cluster.Happens occurrence after)
      (unasked : occurrence.isAsked = false) : Traded settings accounts after
  | sessions {cluster : Cluster} (traded : Traded settings accounts cluster) (me : Address)
      (change : SessionStore → SessionStore) :
      Traded settings accounts (cluster.modifyCoordinator me fun coordinator =>
        { coordinator with sessions := change coordinator.sessions })

variable {settings : Settings} {accounts : Accounts} {cluster after : Cluster}

theorem Traded.shifts (traded : Traded settings accounts cluster)
    (shifts : cluster.Shifts after) : Traded settings accounts after :=
  shifts.keep traded fun earlier happens unasked => earlier.happen happens unasked

/-- What is done in sessions are operations of coordinators. -/
theorem Traded.conducted (traded : Traded settings accounts cluster) :
    ∃ log, (fresh settings none accounts).Conducted log cluster ∧
      ∀ operation ∈ log, operation.InSession := by
  have snoc {log : List Operation} {last : Operation}
      (earlier : ∀ operation ∈ log, operation.InSession) (inSession : last.InSession) :
      ∀ operation ∈ log ++ [last], operation.InSession := by
    intro operation member
    rcases List.mem_append.mp member with old | new
    · exact earlier operation old
    · rw [List.mem_singleton.mp new]
      exact inSession
  induction traded with
  | begin => exact ⟨[], .begin, by simp⟩
  | act traded client now action storable induction =>
      obtain ⟨log, run, earlier⟩ := induction
      have touched := run.sessions client.coordinator fun sessions =>
        sessions.touch client.session.serial now
      rw [action.perform_eq]
      exact ⟨_, touched.perform client.coordinator _ storable,
        snoc earlier (.inr ⟨client.session.user, action, rfl⟩)⟩
  | ask traded me inSession storable induction =>
      obtain ⟨log, run, earlier⟩ := induction
      exact ⟨_, run.ask me _ storable, snoc earlier inSession⟩
  | happen traded happens unasked induction =>
      obtain ⟨log, run, earlier⟩ := induction
      exact ⟨log, run.happen happens unasked, earlier⟩
  | sessions traded me change induction =>
      obtain ⟨log, run, earlier⟩ := induction
      exact ⟨log, run.sessions me change, earlier⟩

/-- However auctions are opened and bids are made in sessions, every price on every node is a number
and not below zero, and every reply that a node can give equals itself. -/
theorem Traded.prices_are_amounts (traded : Traded settings accounts cluster) :
    ∀ node ∈ cluster.nodes,
      (∀ row ∈ node.replica.auctions.rows,
        row.2.currentPrice.IsAmount ∧ row.2.reservePrice.IsAmount) ∧
        ∀ request reply, (node.replica.serve request).1 = .ok reply → (reply == reply) = true := by
  obtain ⟨log, run, inSession⟩ := traded.conducted
  have lasting : (fresh settings none accounts).Lasting Snapshot.InAmounts :=
    { legible := fun snapshot held row member => (held row member).1
      blank := nofun
      seeded := nofun }
  have every := (run.every lasting (fun operation logged storable replica held =>
    Replica.inAmounts_serve (inSession operation logged) storable held)
      (every_fresh settings none accounts)).2
  intro node listed
  have held := every.nodes node listed
  exact ⟨fun row member => (held row member).2,
    fun request reply served => Replica.beq_self_of_inAmounts held served⟩

/-- A seller signs in with the coordinator of two nodes. -/
def signedIn : Client × Cluster := staffed.signIn ⟨.multicast, 1⟩ .seller "Ann" 0

/-- The cluster after the seller has offered a lamp at a price that is no number and with a reserve
below zero. -/
def pricelessOffer : Cluster :=
  (ClientAction.create ⟨0x7ff8000000000000⟩ "Lamp" ⟨0xbff0000000000000⟩).perform signedIn.2
    signedIn.1 1

theorem traded_pricelessOffer : Traded .standard (.table []) pricelessOffer := by
  have attached : Traded .standard (.table []) _ := Traded.begin.shifts (shifts_startCoordinator _)
  have proper (cluster : Cluster) (reached : Reached .standard none (.table []) cluster) :
      cluster.hub.Proper := by
    obtain ⟨past, course⟩ := reached.leads
    exact course.cast.proper
  have one := attached.shifts (shifts_startNode (proper _ (.startCoordinator .begin)))
  have two : Traded .standard (.table []) staffed :=
    one.shifts (shifts_startNode (proper _ (.startNode (.startCoordinator .begin))))
  have signed : Traded .standard (.table []) signedIn.2 :=
    two.sessions ⟨.multicast, 1⟩ fun _ =>
      ((staffed.sessionsOf ⟨.multicast, 1⟩).enter .seller "Ann" 0).2
  exact signed.act signedIn.1 1 _ ⟨by decide +kernel, by decide +kernel, by decide, by decide⟩

/-- Both nodes hold the lamp, at prices that are numbers and not below zero. -/
theorem Traded.prices_are_amounts_priceless :
    Traded .standard (.table []) pricelessOffer ∧
      ∃ node ∈ pricelessOffer.nodes, ∃ auction,
        node.replica.auctions.find? 1000 = some auction ∧ auction.currentPrice.IsAmount ∧
          auction.reservePrice.IsAmount := by
  have held : (pricelessOffer.nodes.map fun node => node.replica.auctions.find? 1000) =
      List.replicate 2 (some (.unbid "Ann" .zero "Lamp" .zero)) := by
    decide +kernel
  have among : some (Auction.unbid "Ann" .zero "Lamp" .zero) ∈
      pricelessOffer.nodes.map fun node => node.replica.auctions.find? 1000 := by
    rw [held]
    exact List.mem_cons_self
  obtain ⟨node, listed, found⟩ := List.mem_map.mp among
  have prices := (traded_pricelessOffer.prices_are_amounts node listed).1
    (1000, .unbid "Ann" .zero "Lamp" .zero) ((Catalogue.find?_eq_some_iff _ _ _).mp found)
  exact ⟨traded_pricelessOffer, node, listed, _, found, prices⟩

end Cluster

end AuctionHouse
