import AuctionHouse.Proofs.Cast
import AuctionHouse.Proofs.Holdings
import AuctionHouse.Proofs.Sales

/-!
# Who an auction says has bid

Bidders give their names but not their addresses: the address on an auction is the one on record for
the name beside it, and somebody of this name has bid on the auction.  Nobody has bid on an auction
that was just opened or that stands in the seed file; then two texts stand for nobody.  The two are
set together by a bid, even by one that cannot be accounted for, and together they are copied from
node to node.  So whatever happens to the nodes, no two of them ever come apart, and the winner of
an auction that is closed is reached where the accounts say.
-/

namespace AuctionHouse

/-! ## Seeding -/

namespace Seed

theorem unbid_of_readLines {number : Nat} {lines : List (List UInt8)} {auctions : List Auction}
    (rows : readLines number lines = .ok auctions) {auction : Auction}
    (member : auction ∈ auctions) :
    ∃ startPrice description reservePrice,
      auction = .unbid owner startPrice description reservePrice := by
  obtain ⟨line, -, reads⟩ := exists_reads_of_mem rows member
  cases reads with
  | row => exact ⟨_, _, _, rfl⟩

end Seed

namespace Replica

variable {replica : Replica} {row : AuctionId × Auction}

theorem mem_enter {id : AuctionId} {auctions : List Auction}
    (member : row ∈ (replica.enter id auctions).2.auctions.rows) :
    row ∈ replica.auctions.rows ∨ row.2 ∈ auctions := by
  fun_induction enter replica id auctions with
  | case1 => exact .inl member
  | case2 _ _ _ _ _ _ _ induction =>
      rcases induction member with before | later
      · rcases Catalogue.mem_insertRow before with rfl | old
        · exact .inr List.mem_cons_self
        · exact .inl old
      · exact .inr (List.mem_cons_of_mem _ later)
  | case3 => exact .inl member
  | case4 => exact .inl member

/-- Where an auction comes from that is there after seeding. -/
theorem mem_seedFile {contents : Option (List UInt8)}
    (member : row ∈ (replica.seedFile contents).2.auctions.rows) :
    row ∈ replica.auctions.rows ∨
      ∃ bytes auctions, contents = some bytes ∧ Seed.read bytes = .ok auctions ∧
        row.2 ∈ auctions := by
  cases contents with
  | none => exact .inl member
  | some bytes =>
      rw [seedFile] at member
      cases read : Seed.read bytes with
      | error fault =>
          rw [seed_of_error read] at member
          exact .inl member
      | ok auctions =>
          rw [seed_of_read read] at member
          rcases mem_enter member with old | new
          · exact .inl old
          · exact .inr ⟨bytes, auctions, rfl, read, new⟩

end Replica

/-! ## Bids on record -/

/-- What an auction says about who has bid on it: nobody, or somebody whose bid on it is in the log,
with the address on record. -/
inductive OnRecord (accounts : Accounts) (log : List Operation) (id : AuctionId) :
    String → String → Prop
  | nobody : OnRecord accounts log id noBidder noEmail
  | bidder {amount : Price} {user : String} (bid : .bid id amount user ∈ log) :
      OnRecord accounts log id user (accounts.emailOrPlaceholder user)

/-- Every auction of a state says what is on record, in texts short enough to travel. -/
def Snapshot.OnRecord (accounts : Accounts) (log : List Operation) (snapshot : Snapshot) : Prop :=
  ∀ row ∈ snapshot.auctions.rows,
    row.2.Storable ∧
      AuctionHouse.OnRecord accounts log row.1 row.2.bidderName row.2.bidderEmail

namespace Replica

variable {replica : Replica} {accounts : Accounts} {log : List Operation}

/-- Serving an operation keeps to what is on record, if it is in the log or no bid. -/
theorem onRecord_serve {operation : Operation}
    (logged : ∀ id amount user, operation = .bid id amount user → operation ∈ log)
    (storable : (operation.request accounts).Storable)
    (held : replica.snapshot.OnRecord accounts log) :
    (replica.serve (operation.request accounts)).2.snapshot.OnRecord accounts log := by
  have texts := storable_serve (fun row member => (held row member).1) storable
  refine fun row member => ⟨texts row member, ?_⟩
  rcases mem_serve member with old | opened | ⟨auction, amount, name, email, -, -, bids, raised⟩
  · exact (held row old).2
  · cases operation with
    | create owner startPrice description minPrice =>
        rw [← Request.addAuction.inj opened]
        exact .nobody
    | _ => simp [Operation.request] at opened
  · cases operation with
    | bid id asked user =>
        obtain ⟨rfl, rfl, rfl, rfl⟩ := Request.placeBid.inj bids
        rw [raised]
        exact .bidder (logged _ _ _ rfl)
    | _ => simp [Operation.request] at bids

/-- So does seeding. -/
theorem onRecord_seedFile {contents : Option (List UInt8)}
    (rows : ∀ bytes auctions, contents = some bytes → Seed.read bytes = .ok auctions →
      ∀ auction ∈ auctions, auction.Storable)
    (held : replica.snapshot.OnRecord accounts log) :
    (replica.seedFile contents).2.snapshot.OnRecord accounts log := by
  intro row member
  rcases mem_seedFile member with old | ⟨bytes, auctions, isThere, read, listed⟩
  · exact held row old
  · refine ⟨rows bytes auctions isThere read row.2 listed, ?_⟩
    obtain ⟨startPrice, description, reservePrice, unbid⟩ := Seed.unbid_of_readLines read listed
    rw [unbid]
    exact .nobody

/-- What is taken out was there. -/
theorem onRecord_removed {requester : String} {id : AuctionId} {auction : Auction}
    (held : replica.snapshot.OnRecord accounts log)
    (removed : (replica.serve (.removeAuction requester id)).1 = .ok (.removed (some auction))) :
    OnRecord accounts log id auction.bidderName auction.bidderEmail := by
  obtain ⟨asking, number, same, listed⟩ := listed_of_removed removed
  obtain ⟨rfl, rfl⟩ := Request.removeAuction.inj same
  exact (held (id, auction) listed).2

end Replica

/-- When closing gives that something was sold, the reply was the auction with its bidder. -/
theorem Operation.removed_of_sold {owner name email : String} {id : AuctionId} {price : Price}
    {reply : Except Fault Reply}
    (sold : (Operation.close owner id).outcome reply = .closed (.ok (.sold name email price))) :
    ∃ auction, reply = .ok (.removed (some auction)) ∧ auction.bidderName = name ∧
      auction.bidderEmail = email := by
  cases reply with
  | error fault => simp [Operation.outcome, Except.bind] at sold
  | ok value =>
      cases value with
      | removed given =>
          cases given with
          | none => simp [Operation.outcome, Except.bind] at sold
          | some auction =>
              obtain ⟨-, named, reached, -⟩ := auction.of_sold
                (Except.ok.inj (Outcome.closed.inj sold))
              exact ⟨auction, rfl, named, reached⟩
      | _ => simp [Operation.outcome, Except.bind] at sold

namespace Cluster

variable {settings : Settings} {seed : Option (Option (List UInt8))} {accounts : Accounts}
  {log : List Operation} {cluster : Cluster} {me : Address} {owner : String} {id : AuctionId}

/-- Whatever happens, all auctions on all nodes say what is on record. -/
theorem Conducted.onRecord
    (rows : ∀ bytes auctions, seed = some (some bytes) → Seed.read bytes = .ok auctions →
      ∀ auction ∈ auctions, auction.Storable)
    (run : (fresh settings seed accounts).Conducted log cluster) :
    cluster.Every fun snapshot => snapshot.OnRecord accounts log := by
  have lasting : (fresh settings seed accounts).Lasting
      fun snapshot => snapshot.OnRecord accounts log :=
    { legible := fun snapshot held row member => (held row member).1
      blank := nofun
      seeded := fun contents named replica held =>
        Replica.onRecord_seedFile (fun bytes auctions isThere =>
          rows bytes auctions (isThere ▸ named)) held }
  refine (run.every lasting (fun operation logged storable replica held => ?_)
    (every_fresh settings seed accounts)).2
  exact Replica.onRecord_serve (fun _ _ _ _ => logged) storable held

/-- The reply that wins when an auction is to be closed says what is on record. -/
theorem Every.onRecord_of_coordinate
    (every : cluster.Every fun snapshot => snapshot.OnRecord accounts log)
    (storable : Text.Storable owner) {auction : Auction}
    (won : (cluster.coordinate me (.removeAuction owner id)).1 = .ok (.removed (some auction))) :
    OnRecord accounts log id auction.bidderName auction.bidderEmail := by
  have request : ((Operation.close owner id).request accounts).Storable := storable
  have serves (replica : Replica) (held : replica.snapshot.OnRecord accounts log) :
      (replica.serve ((Operation.close owner id).request accounts)).2.snapshot.OnRecord accounts
        log :=
    Replica.onRecord_serve (by simp) request held
  have legible (replica : Replica) (held : replica.snapshot.OnRecord accounts log) (reply : Reply)
      (served : (replica.serve ((Operation.close owner id).request accounts)).1 = .ok reply) :
      reply.Storable :=
    Replica.storable_reply (fun row member => (held row member).1) (by simp [Operation.request])
      served
  obtain ⟨replica, held, served⟩ := every.of_coordinate serves legible request won
  exact Replica.onRecord_removed held served

/-- Every auction on every node carries the two texts that stand for nobody, or the name of somebody
who has bid on it with the address that the accounts have for this name.  So does every auction that
is taken out, whatever else happened since the nodes were compared, and the winner that closing an
auction gives. -/
theorem Conducted.bidders_on_record
    (rows : ∀ bytes auctions, seed = some (some bytes) → Seed.read bytes = .ok auctions →
      ∀ auction ∈ auctions, auction.Storable)
    (run : (fresh settings seed accounts).Conducted log cluster) :
    (∀ node ∈ cluster.nodes, ∀ row ∈ node.replica.auctions.rows,
        OnRecord accounts log row.1 row.2.bidderName row.2.bidderEmail) ∧
      ∀ me owner id, Text.Storable owner →
        (∀ auction,
          (cluster.coordinate me (.removeAuction owner id)).1 = .ok (.removed (some auction)) →
            OnRecord accounts log id auction.bidderName auction.bidderEmail) ∧
          ∀ name email price, (cluster.closeAuction me owner id).1 = .ok (.sold name email price) →
            OnRecord accounts log id name email := by
  have every := run.onRecord rows
  refine ⟨fun node listed row member => (every.nodes node listed row member).2,
    fun me owner id storable => ⟨fun auction won => every.onRecord_of_coordinate storable won,
      fun name email price sold => ?_⟩⟩
  have legible (snapshot : Snapshot) (held : snapshot.OnRecord accounts log) : snapshot.Storable :=
    fun row member => (held row member).1
  have prepared := every.prepared legible me (.close owner id)
  have performed := (Operation.close owner id).perform_eq cluster me
    (Prod.mk.eta (p := ((Operation.close owner id).prepared cluster me).settledRound me
      (.removeAuction owner id))).symm
  have closed : (Operation.close owner id).outcome
      (((Operation.close owner id).prepared cluster me).settledRound me (.removeAuction owner id)).1 =
        .closed (.ok (.sold name email price)) := by
    rw [← sold, ← perform_close, performed]
  obtain ⟨auction, won, rfl, rfl⟩ := Operation.removed_of_sold closed
  exact (prepared.every every).onRecord_of_coordinate storable won

/-- Accounts that have an address for one user. -/
def oneAccount : Accounts := .table [("Bob", "bob@example.com")]

/-- A coordinator and a node. -/
def paired : Cluster := (fresh .standard none oneAccount).startCoordinator.2.startNode.2

/-- The cluster after an auction was opened. -/
def offered : Cluster := (lampOpening.perform paired ⟨.multicast, 1⟩).2

/-- The cluster after a bid on it. -/
def biddenFor : Cluster := (lampBid.perform offered ⟨.multicast, 1⟩).2

theorem conducted_biddenFor :
    (fresh .standard none oneAccount).Conducted [lampOpening, lampBid] biddenFor := by
  have attached : Reached .standard none oneAccount _ := .startCoordinator .begin
  obtain ⟨past, course⟩ := attached.leads
  have started : (fresh .standard none oneAccount).Conducted [] paired :=
    (Conducted.begin.shifts (shifts_startCoordinator _)).shifts
      (shifts_startNode course.cast.proper)
  have opened := started.perform ⟨.multicast, 1⟩ lampOpening
    ⟨by decide, by decide, by decide, by decide⟩
  exact opened.perform ⟨.multicast, 1⟩ lampBid ⟨by decide, by decide +kernel⟩

/-- When the auction is closed the winner is Bob, who bid on it and has an account. -/
theorem Conducted.bidders_on_record_sold :
    (biddenFor.closeAuction ⟨.multicast, 1⟩ "Ann" 1000).1 =
        .ok (.sold "Bob" "bob@example.com" ⟨0x4034000000000000⟩) ∧
      OnRecord oneAccount [lampOpening, lampBid] 1000 "Bob" "bob@example.com" := by
  have sold : (biddenFor.closeAuction ⟨.multicast, 1⟩ "Ann" 1000).1 =
      .ok (.sold "Bob" "bob@example.com" ⟨0x4034000000000000⟩) := by
    decide +kernel
  obtain ⟨-, winners⟩ := conducted_biddenFor.bidders_on_record (by simp)
  exact ⟨sold, (winners ⟨.multicast, 1⟩ "Ann" 1000 (by decide)).2 _ _ _ sold⟩

end Cluster

end AuctionHouse
