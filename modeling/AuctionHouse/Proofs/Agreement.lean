import AuctionHouse.Proofs.Commands
import AuctionHouse.Proofs.PrefixCode
import AuctionHouse.Proofs.Unanimity

/-!
# What nodes that agree are told

Nodes that hold the same state give the same reply, and one reply that all have given needs no
repair.  But replies are compared by the numbers in them, and a price that is no number differs
from itself.  If an auction with such a price is closed, every copy of the reply makes an entry of
its own; the first entry wins, and all nodes but the first are told to copy the state of the first,
which is their own state.
-/

namespace AuctionHouse

/-- Both prices of an auction are numbers. -/
def Auction.Priced (auction : Auction) : Prop :=
  auction.currentPrice.isNaN = false ∧ auction.reservePrice.isNaN = false

instance (auction : Auction) : Decidable auction.Priced := inferInstanceAs (Decidable (_ ∧ _))

theorem Price.beq_self_iff (price : Price) : (price == price) = true ↔ price.isNaN = false := by
  constructor
  · intro equal
    exact ((price.beq_iff price).mp equal).1
  · exact price.beq_self

/-- An auction equals itself if its prices are numbers. -/
theorem Auction.beq_self_iff (auction : Auction) :
    (auction == auction) = true ↔ auction.Priced := by
  change (auction.currentPrice == auction.currentPrice &&
    (auction.reservePrice == auction.reservePrice &&
      (auction.description == auction.description && (auction.owner == auction.owner &&
        (auction.bidderName == auction.bidderName &&
          auction.bidderEmail == auction.bidderEmail))))) = true ↔ _
  simp only [beq_self_eq_true, Bool.and_true, Bool.and_eq_true, Price.beq_self_iff]
  rfl

/-- A reply equals itself unless it carries an auction with a price that is no number. -/
theorem Reply.beq_self_iff (reply : Reply) :
    (reply == reply) = true ↔ ∀ auction, reply = .removed (some auction) → auction.Priced := by
  cases reply with
  | removed answer =>
      cases answer with
      | none => exact ⟨by simp, fun _ => rfl⟩
      | some auction =>
          have same : (Reply.removed (some auction) == .removed (some auction)) =
              (auction == auction) := rfl
          rw [same, auction.beq_self_iff]
          simp
  | fingerprint value => exact ⟨by simp, fun _ => beq_self_eq_true value⟩
  | added id => exact ⟨by simp, fun _ => beq_self_eq_true id⟩
  | bid outcome => exact ⟨by simp, fun _ => beq_self_eq_true outcome⟩
  | listings text => exact ⟨by simp, fun _ => beq_self_eq_true text⟩

/-! ## Ballots on which all gave the same reply -/

/-- The plan that has everybody follow the first: whoever is noted in the book copies the state of
the first voter, if that one is noted. -/
def AddressBook.followFirst (book : AddressBook) : List Address → List (Address × Address)
  | [] => []
  | first :: others =>
    match book.find? first with
    | some source => (others.filterMap book.find?).map fun target => (target, source)
    | none => []

namespace Ballot

variable {value : Type} [BEq value] {votes : List (Address × value)} {given : value}

/-- A reply that differs from itself has an entry for each voter. -/
theorem tally_of_unequal (agree : ∀ vote ∈ votes, vote.2 = given)
    (unequal : (given == given) = false) :
    (tally votes).entries = votes.map fun vote => (vote.2, [vote.1]) := by
  induction votes using List.reverseRecOn with
  | nil => rfl
  | append_singleton votes vote induction =>
      obtain ⟨voter, vote⟩ := vote
      obtain rfl : vote = given := agree (voter, vote) (by simp)
      have before := induction fun earlier member => agree earlier (by simp [member])
      have passed : ∀ entry ∈ (tally votes).entries, (entry.1 == vote) = false := by
        intro entry member
        rw [before] at member
        obtain ⟨earlier, voted, rfl⟩ := List.mem_map.mp member
        rw [agree earlier (by simp [voted])]
        exact unequal
      rw [entries_tally_append]
      rcases cast_cases voter vote (tally votes).entries with
        ⟨earlier, present, voters, later, split, -, equal, -⟩ | ⟨-, result⟩
      · rw [passed (present, voters) (by simp [split])] at equal
        contradiction
      · rw [result, before]
        simp

omit [BEq value] in
/-- Where every voter stands alone the first one wins. -/
theorem repairPlan_of_singles {ballot : Ballot value} (book : AddressBook)
    (singles : ballot.entries = votes.map fun vote => (vote.2, [vote.1])) :
    ballot.repairPlan book = book.followFirst (votes.map Prod.fst) := by
  cases votes with
  | nil =>
      have nobody : ballot.majority? = none := by
        rw [majority?, singles]
        rfl
      rw [repairPlan, nobody]
      rfl
  | cons first others =>
      rw [List.map_cons] at singles
      have leading : ballot.leads (first.2, [first.1]) = true := by
        simp [leads, singles]
      have wins : ballot.majority? = some (first.2, [first.1]) := by
        rw [majority?, singles, List.find?_cons_of_pos leading]
      have against : ballot.dissenters = others.map Prod.fst := by
        rw [dissenters, singles, List.eraseP_cons_of_pos leading, List.flatMap_map,
          List.map_eq_flatMap]
      cases known : book.find? first.1 with
      | none => simp [repairPlan, wins, AddressBook.followFirst, known]
      | some source => simp [repairPlan, wins, against, AddressBook.followFirst, known]

end Ballot

namespace Cluster

variable {cluster : Cluster} {me : Address} {replica : Replica} {request : Request}

/-- All nodes that are reached give the reply of the common replica. -/
theorem Unanimous.votes_eq (unanimous : cluster.Unanimous replica) (orderly : cluster.Orderly) :
    cluster.votes me request =
      (cluster.reached me).filterMap fun entry =>
        (replica.reply? request).map fun reply => (entry.1, reply) := by
  refine List.filterMap_congr fun entry isReached => ?_
  rw [unanimous entry.2 (orderly.of_reached isReached).1]

/-- Nodes that agree all follow the first if their reply differs from itself. -/
theorem Unanimous.planOf_eq_followFirst (unanimous : cluster.Unanimous replica)
    (orderly : cluster.Orderly) {auction : Auction} (storable : auction.Storable)
    (served : (replica.serve request).1 = .ok (.removed (some auction)))
    (unpriced : ¬auction.Priced) :
    cluster.planOf me request =
      (cluster.bookOf me).followFirst ((cluster.reached me).map Prod.fst) := by
  obtain ⟨reply, isReply⟩ : ∃ reply, reply = Reply.removed (some auction) := ⟨_, rfl⟩
  rw [← isReply] at served
  have replied := Replica.reply?_of_served served (isReply ▸ storable)
  have votes : cluster.votes me request =
      (cluster.reached me).map fun entry => (entry.1, reply) := by
    rw [unanimous.votes_eq orderly, replied, ← List.filterMap_eq_map]
    rfl
  have unequal : (reply == reply) = false := by
    refine Bool.eq_false_iff.mpr fun equal => unpriced ?_
    exact reply.beq_self_iff.mp equal auction isReply
  have agree : ∀ vote ∈ cluster.votes me request, vote.2 = reply := by
    intro vote isVote
    rw [votes] at isVote
    obtain ⟨entry, -, rfl⟩ := List.mem_map.mp isVote
    rfl
  have voters : (cluster.votes me request).map Prod.fst = (cluster.reached me).map Prod.fst := by
    rw [votes, List.map_map]
    rfl
  rw [planOf, ballotOf, Ballot.repairPlan_of_singles _ (Ballot.tally_of_unequal agree unequal),
    voters]

end Cluster

/-- An operation on nodes that agree gives no command, except that closing an auction with a price
that is no number has all nodes but the first copy the state of the first. -/
theorem Operation.commands_of_unanimous (operation : Operation) {cluster : Cluster} {me : Address}
    {replica : Replica} (orderly : cluster.Orderly) (unanimous : cluster.Unanimous replica)
    (texts : replica.snapshot.Storable) {request : Request}
    (isRequest : request = operation.request cluster.accounts) (storable : request.Storable)
    (table : request = .listings → Text.Storable replica.listings) :
    ((∀ auction, (replica.serve request).1 = .ok (.removed (some auction)) → auction.Priced) →
      (operation.perform cluster me).2.commands = cluster.commands) ∧
      ∀ auction, (replica.serve request).1 = .ok (.removed (some auction)) → ¬auction.Priced →
        (operation.perform cluster me).2.commands = cluster.commands ++
          Cluster.commandsOf me
            ((cluster.bookOf me).followFirst ((cluster.reached me).map Prod.fst)) := by
  have performed : (operation.perform cluster me).2.commands =
      cluster.commands ++ Cluster.commandsOf me (cluster.planOf me request) := by
    rw [operation.commands_perform, unanimous.prepared_eq orderly, ← isRequest,
      orderly.commands_settledRound storable]
  have legible : ∀ reply, (replica.serve request).1 = .ok reply → reply.Storable :=
    fun reply served => Replica.storable_reply texts table served
  constructor
  · intro priced
    rw [performed, unanimous.planOf_eq_nil orderly.toArranged legible fun reply served =>
      reply.beq_self_iff.mpr fun auction removed => priced auction (removed ▸ served)]
    exact List.append_nil _
  · intro auction served unpriced
    rw [performed, unanimous.planOf_eq_followFirst orderly (legible _ served) served unpriced]

/-- A replica that holds one auction, with a start price that is no number. -/
def Replica.priceless : Replica := ((Replica.fresh 1000 5000).serve (.addAuction .priceless)).2

theorem Replica.storable_priceless : Replica.priceless.snapshot.Storable :=
  Replica.storable_serve (fun row listed => by simp [fresh, snapshot, Catalogue.empty] at listed)
    Auction.storable_priceless

/-- Three nodes that hold it. -/
def Cluster.priceless : Cluster := drifted.revise (fun _ => .priceless) []

theorem Cluster.orderly_priceless : Cluster.priceless.Orderly :=
  orderly_drifted.revise (by decide +kernel) []

theorem Cluster.unanimous_priceless : Cluster.priceless.Unanimous .priceless := by
  intro node isRunning
  rw [Cluster.priceless, running_revise] at isRunning
  obtain ⟨old, -, rfl⟩ := List.mem_map.mp isRunning
  rfl

/-- When the auction is closed the second and the third node are told to copy the state of the
first one; showing the table is not followed by commands. -/
theorem Operation.commands_of_unanimous_priceless :
    (Operation.perform .priceless ⟨.multicast, 1⟩ .listings).2.commands =
        Cluster.priceless.commands ∧
      (Operation.perform .priceless ⟨.multicast, 1⟩ (.close "Zoë" 1000)).2.commands =
        Cluster.priceless.commands ++
          Cluster.commandsOf ⟨.multicast, 1⟩
            [(⟨.multicast, 4⟩, ⟨.multicast, 2⟩), (⟨.multicast, 6⟩, ⟨.multicast, 2⟩)] := by
  have owner : Text.Storable "Zoë" := by decide
  have removed : (Replica.priceless.serve (.removeAuction "Zoë" 1000)).1 =
      .ok (.removed (some .priceless)) := by decide +kernel
  constructor
  · refine (Operation.listings.commands_of_unanimous Cluster.orderly_priceless
      Cluster.unanimous_priceless Replica.storable_priceless rfl trivial (by decide +kernel)).1 ?_
    intro auction shown
    simp [Operation.request] at shown
  · exact ((Operation.close "Zoë" 1000).commands_of_unanimous Cluster.orderly_priceless
      Cluster.unanimous_priceless Replica.storable_priceless rfl owner
      (by simp [Operation.request])).2 .priceless removed (by decide +kernel)

/-- Nodes may agree bit for bit, with nobody cut off, and be told to copy each other's states. -/
theorem Operation.not_silent_of_unanimous :
    ¬∀ (operation : Operation) (cluster : Cluster) (me : Address) (replica : Replica),
      cluster.Orderly → cluster.hub.isolated = [] → cluster.Unanimous replica →
        (operation.perform cluster me).2.commands = cluster.commands := by
  intro silent
  have quiet := silent (.close "Zoë" 1000) .priceless ⟨.multicast, 1⟩ .priceless
    Cluster.orderly_priceless rfl Cluster.unanimous_priceless
  have loud : (Operation.perform .priceless ⟨.multicast, 1⟩ (.close "Zoë" 1000)).2.commands =
      [.told ⟨.multicast, 1⟩ ⟨.multicast, 4⟩ ⟨.multicast, 2⟩,
        .told ⟨.multicast, 1⟩ ⟨.multicast, 6⟩ ⟨.multicast, 2⟩] := by
    decide +kernel
  rw [loud] at quiet
  exact absurd quiet (by decide +kernel)

end AuctionHouse
