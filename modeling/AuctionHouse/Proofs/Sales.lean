import AuctionHouse.Proofs.Exchanges
import AuctionHouse.Proofs.Promptness
import AuctionHouse.Proofs.Unison

/-!
# Sales

What nodes that agree hold under a number can be read off the log of the operations and of what they
gave: an auction is filed when its opening is answered by the number, each bid that is accepted goes
on it, and so does a bid whose weight could not be added up; closing takes it out.  So when an
auction is sold, the log tells to whom: to the last bidder.  But closing compares prices, and a
start price may beat the reserve by itself: then an auction on which nobody has bid is sold to
nobody.
-/

namespace AuctionHouse

/-! ## What is filed under a number -/

namespace Replica

variable {replica : Replica}

theorem add_of_some {auction : Auction} {id : AuctionId}
    (answered : (replica.add auction).1 = .ok (some id)) :
    (replica.add auction).2.auctions = replica.auctions.insert id auction := by
  have carried := carriesOut_add answered
  generalize (replica.add auction).2 = after at carried ⊢
  cases carried with
  | addition => rfl

theorem remove_of_some {requester : String} {id : AuctionId} {auction : Auction}
    (answered : (replica.remove requester id).1 = .ok (some auction)) :
    replica.auctions.find? id = some auction ∧
      (replica.remove requester id).2.auctions = replica.auctions.erase id := by
  have carried := carriesOut_remove answered
  generalize (replica.remove requester id).2 = after at carried ⊢
  cases carried with
  | removal listed => exact ⟨listed, rfl⟩

theorem bid_of_accepted {id : AuctionId} {amount : Price} {name email : String}
    (answered : (replica.bid id amount name email).1 = .ok .accepted) :
    ∃ auction, replica.auctions.find? id = some auction ∧
      (replica.bid id amount name email).2.auctions =
        replica.auctions.insert id (auction.withBid amount name email) := by
  have carried := carriesOut_bid answered
  generalize (replica.bid id amount name email).2 = after at carried ⊢
  cases carried with
  | bid listed => exact ⟨_, listed, rfl⟩

end Replica

/-- An operation with what it gave. -/
abbrev LogEntry := Operation × Outcome

namespace LogEntry

/-- The auction that an entry opens under a number. -/
def opened? (id : AuctionId) : LogEntry → Option Auction
  | (.create owner startPrice description minPrice, .created (.ok number)) =>
    if number = id then some (.unbid owner startPrice description minPrice) else none
  | _ => none

/-- The amount and the bidder of a bid on an auction that was accepted. -/
def accepted? (id : AuctionId) : LogEntry → Option (Price × String)
  | (.bid number amount bidder, .bid (.ok .accepted)) =>
    if number = id then some (amount, bidder) else none
  | _ => none

/-- The amount and the bidder of a bid on an auction that got no answer. -/
def unanswered? (id : AuctionId) : LogEntry → Option (Price × String)
  | (.bid number amount bidder, .bid (.error .noReplies)) =>
    if number = id then some (amount, bidder) else none
  | _ => none

/-- Whether an entry closes the auction under a number. -/
def closes (id : AuctionId) : LogEntry → Bool
  | (.close _ number, .closed (.ok (.sold _ _ _))) => decide (number = id)
  | (.close _ number, .closed (.ok (.reserveNotMet _ _))) => decide (number = id)
  | _ => false

end LogEntry

/-- An auction after a bid, if there was one. -/
def Auction.afterBid (auction : Auction) (accounts : Accounts) :
    Option (Price × String) → Auction
  | none => auction
  | some (amount, bidder) =>
    auction.withBid amount bidder (accounts.emailOrPlaceholder bidder)

/-- What is filed under a number after an entry of the log. -/
def LogEntry.filedAfter (accounts : Accounts) (id : AuctionId) (filed : Option Auction)
    (entry : LogEntry) : Option Auction :=
  match entry.opened? id with
  | some auction => some auction
  | none =>
    if entry.closes id then none
    else
      filed.map fun auction =>
        auction.afterBid accounts ((entry.accepted? id).or (entry.unanswered? id))

namespace LogEntry

variable {accounts : Accounts} {id : AuctionId} {filed : Option Auction}

/-- An entry that neither opens nor closes the auction nor bids on it. -/
theorem filedAfter_of_idle {entry : LogEntry} (opens : entry.opened? id = none)
    (closes : entry.closes id = false) (accepted : entry.accepted? id = none)
    (unanswered : entry.unanswered? id = none) : entry.filedAfter accounts id filed = filed := by
  simp only [filedAfter, opens, closes, accepted, unanswered, Option.none_or]
  exact Option.map_id_apply

theorem filedAfter_create (filed : Option Auction) {owner description : String}
    {startPrice minPrice : Price} {number : AuctionId} :
    filedAfter accounts id filed
        (.create owner startPrice description minPrice, .created (.ok number)) =
      if id = number then some (.unbid owner startPrice description minPrice) else filed := by
  by_cases same : id = number
  · simp [filedAfter, opened?, same]
  · rw [if_neg same]
    exact filedAfter_of_idle (if_neg fun equal => same equal.symm) rfl rfl rfl

theorem filedAfter_close (filed : Option Auction) {owner : String} {number : AuctionId}
    (auction : Auction) :
    filedAfter accounts id filed (.close owner number, .closed (.ok auction.conclude)) =
      if id = number then none else filed := by
  have closed : closes id (.close owner number, .closed (.ok auction.conclude)) =
      decide (number = id) := by
    rw [Auction.conclude]
    split <;> rfl
  by_cases same : id = number
  · rw [if_pos same, filedAfter, closed, if_pos (decide_eq_true same.symm)]
    rfl
  · rw [if_neg same]
    refine filedAfter_of_idle rfl ?_ rfl rfl
    rw [closed]
    exact decide_eq_false fun equal => same equal.symm

theorem filedAfter_bid (filed : Option Auction) {number : AuctionId} {amount : Price}
    {bidder : String} {result : Except Fault BidOutcome}
    (recorded : result = .ok .accepted ∨ result = .error .noReplies) :
    filedAfter accounts id filed (.bid number amount bidder, .bid result) =
      if id = number then
        filed.map fun auction =>
          auction.withBid amount bidder (accounts.emailOrPlaceholder bidder)
      else filed := by
  by_cases same : id = number
  · rcases recorded with rfl | rfl
    · simp [filedAfter, opened?, closes, accepted?, unanswered?, same, Auction.afterBid]
    · simp [filedAfter, opened?, closes, accepted?, unanswered?, same, Auction.afterBid]
  · have other : number ≠ id := fun equal => same equal.symm
    rw [if_neg same]
    rcases recorded with rfl | rfl
    · exact filedAfter_of_idle rfl rfl (if_neg other) rfl
    · exact filedAfter_of_idle rfl rfl rfl (if_neg other)

end LogEntry

open LogEntry

/-- What a replica holds under a number follows the log. -/
theorem Replica.find?_serve (replica : Replica) (operation : Operation) (accounts : Accounts)
    (id : AuctionId) :
    (replica.serve (operation.request accounts)).2.auctions.find? id =
      filedAfter accounts id (replica.auctions.find? id)
        (operation, operation.outcome
          ((replica.serve (operation.request accounts)).1.mapError fun _ => .noReplies)) := by
  cases operation with
  | create owner startPrice description minPrice =>
      change (replica.add _).2.auctions.find? id = filedAfter accounts id _
        (_, Operation.outcome _ (((replica.add _).1.map Reply.added).mapError _))
      cases answered : (replica.add (.unbid owner startPrice description minPrice)).1 with
      | error overflow =>
          have interrupted := add_eq_overflow_iff.mp (Prod.ext answered rfl)
          refine Eq.trans ?_ (filedAfter_of_idle rfl rfl rfl rfl).symm
          rw [interrupted.auctions_eq (by simp [Request.kind])]
      | ok given =>
          cases given with
          | none =>
              refine Eq.trans ?_ (filedAfter_of_idle rfl rfl rfl rfl).symm
              rw [(add_of_none answered).1]
              rfl
          | some number =>
              refine Eq.trans ?_ (filedAfter_create _).symm
              rw [add_of_some answered, Catalogue.find?_insert]
  | close owner number =>
      change (replica.remove _ _).2.auctions.find? id = filedAfter accounts id _
        (_, Operation.outcome _ (((replica.remove _ _).1.map Reply.removed).mapError _))
      cases answered : (replica.remove owner number).1 with
      | error overflow =>
          have interrupted := remove_eq_overflow_iff.mp (Prod.ext answered rfl)
          refine Eq.trans ?_ (filedAfter_of_idle rfl rfl rfl rfl).symm
          rw [interrupted.auctions_eq (by simp [Request.kind])]
      | ok given =>
          cases given with
          | none =>
              refine Eq.trans ?_ (filedAfter_of_idle rfl rfl rfl rfl).symm
              rw [remove_of_none answered]
          | some auction =>
              refine Eq.trans ?_ (filedAfter_close _ auction).symm
              rw [(remove_of_some answered).2, Catalogue.find?_erase]
  | bid number amount bidder =>
      obtain ⟨email, isEmail⟩ : ∃ email, email = accounts.emailOrPlaceholder bidder := ⟨_, rfl⟩
      have inserted {auction : Auction} (found : replica.auctions.find? number = some auction) :
          (replica.auctions.insert number (auction.withBid amount bidder email)).find? id =
            if id = number then
              (replica.auctions.find? id).map fun auction => auction.withBid amount bidder email
            else replica.auctions.find? id := by
        rw [Catalogue.find?_insert]
        by_cases same : id = number
        · rw [if_pos same, if_pos same, same, found]
          rfl
        · rw [if_neg same, if_neg same]
      change (replica.bid _ _ _ (accounts.emailOrPlaceholder bidder)).2.auctions.find? id =
        filedAfter accounts id _ (_, Operation.outcome _
          (((replica.bid _ _ _ (accounts.emailOrPlaceholder bidder)).1.map Reply.bid).mapError _))
      rw [← isEmail]
      cases answered : (replica.bid number amount bidder email).1 with
      | error overflow =>
          obtain ⟨after, served⟩ : ∃ after,
              replica.bid number amount bidder email = (.error .weight, after) :=
            ⟨_, Prod.ext answered rfl⟩
          refine Eq.trans ?_ (filedAfter_bid _ (.inr rfl)).symm
          rw [served, ← isEmail]
          cases bid_eq_overflow_iff.mp served with
          | bid found => exact inserted found
      | ok given =>
          by_cases accepted : given = .accepted
          · obtain rfl := accepted
            obtain ⟨auction, found, raised⟩ := bid_of_accepted answered
            refine Eq.trans ?_ (filedAfter_bid _ (.inl rfl)).symm
            rw [raised, ← isEmail]
            exact inserted found
          · rw [bid_of_not_accepted answered accepted]
            refine (filedAfter_of_idle rfl rfl ?_ rfl).symm
            cases given with
            | accepted => exact absurd rfl accepted
            | tooLow => rfl
            | noSuchAuction => rfl
  | listings => exact (filedAfter_of_idle rfl rfl rfl rfl).symm
  | verify => exact (filedAfter_of_idle rfl rfl rfl rfl).symm

theorem Auction.of_sold (auction : Auction) {name email : String} {price : Price}
    (sold : auction.conclude = .sold name email price) :
    auction.reservePrice < auction.currentPrice ∧ auction.bidderName = name ∧
      auction.bidderEmail = email ∧ auction.currentPrice = price := by
  rw [conclude] at sold
  split at sold
  · rename_i beaten
    exact ⟨beaten, CloseOutcome.sold.inj sold⟩
  · contradiction

/-- What is sold has been taken out. -/
theorem Replica.removed_of_sold {replica : Replica} {owner name email : String} {id : AuctionId}
    {price : Price}
    (sold : (Operation.close owner id).outcome
      ((replica.serve (.removeAuction owner id)).1.mapError fun _ => .noReplies) =
        .closed (.ok (.sold name email price))) :
    ∃ auction, (replica.remove owner id).1 = .ok (some auction) ∧
      auction.conclude = .sold name email price := by
  change Operation.outcome _ (((replica.remove owner id).1.map Reply.removed).mapError _) = _
    at sold
  cases answered : (replica.remove owner id).1 with
  | error overflow => simp [answered, Operation.outcome, Except.map, Except.mapError,
      Except.bind] at sold
  | ok given =>
      rw [answered] at sold
      cases given with
      | none => simp [Operation.outcome, Except.map, Except.mapError, Except.bind] at sold
      | some auction =>
          exact ⟨auction, rfl, Except.ok.inj (Outcome.closed.inj sold)⟩

/-! ## What a log tells about an auction -/

/-- The auction that was last opened under a number, and what came after: an entry of the log opened
it, or it was filed before the log began. -/
inductive Opened (id : AuctionId) (filed : Option Auction) :
    List LogEntry → Auction → List LogEntry → Prop
  | before {since : List LogEntry} {auction : Auction} (found : filed = some auction)
      (last : ∀ entry ∈ since, entry.opened? id = none) : Opened id filed since auction since
  | within {earlier since : List LogEntry} {entry : LogEntry} {auction : Auction}
      (opens : entry.opened? id = some auction)
      (last : ∀ entry ∈ since, entry.opened? id = none) :
      Opened id filed (earlier ++ entry :: since) auction since

variable {accounts : Accounts} {id : AuctionId} {filed : Option Auction}

theorem Opened.snoc {log since : List LogEntry} {auction : Auction}
    (opened : Opened id filed log auction since) {entry : LogEntry}
    (other : entry.opened? id = none) :
    Opened id filed (log ++ [entry]) auction (since ++ [entry]) := by
  have still {since : List LogEntry} (last : ∀ entry ∈ since, entry.opened? id = none) :
      ∀ later ∈ since ++ [entry], later.opened? id = none := by
    intro later member
    rcases List.mem_append.mp member with old | new
    · exact last later old
    · rw [List.mem_singleton.mp new]
      exact other
  cases opened with
  | before found last => exact .before found (still last)
  | within opens last =>
      rw [List.append_assoc, List.cons_append]
      exact .within opens (still last)

@[simp]
theorem Auction.reservePrice_afterBid (auction : Auction) (accounts : Accounts)
    (bid : Option (Price × String)) :
    (auction.afterBid accounts bid).reservePrice = auction.reservePrice := by
  cases bid with
  | none => rfl
  | some bid => rfl

/-- Of two bids the later one counts. -/
theorem Auction.afterBid_afterBid (auction : Auction) (accounts : Accounts)
    (earlier later : Option (Price × String)) :
    (auction.afterBid accounts earlier).afterBid accounts later =
      auction.afterBid accounts (later.or earlier) := by
  cases later with
  | some bid =>
      cases earlier with
      | none => rfl
      | some other => rfl
  | none => rfl

/-- Whatever is filed under a number after a log was opened at some time; its reserve is the one it
was opened with, and if all bids on it were answered it carries the last one that was accepted. -/
theorem opened_of_foldl {log : List LogEntry} {auction : Auction}
    (found : log.foldl (filedAfter accounts id) filed = some auction) :
    ∃ opened since, Opened id filed log opened since ∧
      auction.reservePrice = opened.reservePrice ∧
      ((∀ entry ∈ since, entry.unanswered? id = none) →
        auction = opened.afterBid accounts (since.filterMap (accepted? id)).getLast?) := by
  induction log using List.reverseRecOn generalizing auction with
  | nil => exact ⟨auction, [], .before found (by simp), rfl, fun _ => rfl⟩
  | append_singleton log entry induction =>
      rw [List.foldl_append, List.foldl_cons, List.foldl_nil] at found
      cases opens : entry.opened? id with
      | some opened =>
          rw [filedAfter, opens] at found
          obtain rfl := Option.some.inj found
          exact ⟨opened, [], .within opens (by simp), rfl, fun _ => rfl⟩
      | none =>
          have stays : entry.closes id = false := by
            refine Bool.eq_false_iff.mpr fun closed => ?_
            simp [filedAfter, opens, closed] at found
          simp only [filedAfter, opens, stays] at found
          obtain ⟨held, was, rfl⟩ := Option.map_eq_some_iff.mp found
          obtain ⟨opened, since, story, reserve, carries⟩ := induction was
          refine ⟨opened, since ++ [entry], story.snoc opens, ?_, fun answered => ?_⟩
          · rw [Auction.reservePrice_afterBid, reserve]
          · have heard : entry.unanswered? id = none := answered entry (by simp)
            rw [heard, carries fun earlier member => answered earlier (by simp [member]),
              Auction.afterBid_afterBid, Option.or_none, List.filterMap_append]
            congr 1
            cases accepted : entry.accepted? id with
            | none => simp [accepted]
            | some bid => simp [accepted]

/-! ## Runs of operations -/

namespace Scene

open Cluster

/-- What a scene can come to while listeners take steps and coordinators that nobody cuts off are
asked for operations, with the log of these operations.  After an outcome that differs from itself
the next operation waits until nobody copies anything any more.  All texts that are sent are short
enough to travel. -/
inductive Operated (begun : Scene) : List LogEntry → Scene → Prop
  | begin : Operated begun [] begun
  | listen {log : List LogEntry} {scene after : Scene} (run : Operated begun log scene)
      (listens : scene.Listens after) : Operated begun log after
  | perform {log : List LogEntry} {scene before after : Scene} {me : Address}
      {services : List Service} {ballot : Ballot Reply} (run : Operated begun log scene)
      (connected : scene.cluster.Connected me) (operation : Operation)
      (settled : scene.Calm ∨ Outcome.LastAgrees (log.map Prod.snd))
      (storable : (operation.request scene.cluster.accounts).Storable)
      (table : operation = .listings →
        ∀ node ∈ scene.cluster.running, Text.Storable node.replica.listings)
      (performs : Performs me operation scene before services ballot after) :
      Operated begun (log ++ [(operation, operation.gives ballot)]) after

variable {begun scene : Scene} {me : Address} {replica : Replica} {log : List LogEntry}

/-- Whatever operations are performed, the nodes hold under each number what the log tells.  Nobody
copies anything, unless the last outcome differs from itself. -/
theorem Operated.agreed (arranged : begun.cluster.Arranged) (agreed : begun.Agreed replica [])
    (calm : begun.Calm) (run : begun.Operated log scene) :
    ∃ held, scene.Agreed held [] ∧ begun.cluster.Steady scene.cluster ∧
      (scene.Calm ∨ ¬Outcome.LastAgrees (log.map Prod.snd)) ∧
      (begun.cluster.running ≠ [] → ∀ id, held.auctions.find? id =
        log.foldl (filedAfter begun.cluster.accounts id) (replica.auctions.find? id)) := by
  induction run with
  | begin => exact ⟨replica, agreed, .refl _, .inl calm, fun _ _ => rfl⟩
  | listen run listens induction =>
      obtain ⟨held, agree, steady, quiet, filed⟩ := induction
      refine ⟨held, agree.listens listens, steady.trans listens.steady, ?_, filed⟩
      exact quiet.imp_left fun still => (still.listens listens).1
  | @perform log scene before after me services ballot run connected operation settled storable
      table performs induction =>
      obtain ⟨held, agree, steady, quiet, filed⟩ := induction
      have still : scene.Calm := quiet.elim id settled.resolve_right
      have shown : operation = .listings → scene.cluster.running ≠ [] →
          Text.Storable held.listings := by
        intro isTable inhabited
        obtain ⟨node, isRunning⟩ := List.exists_mem_of_ne_nil _ inhabited
        exact agree.unanimous node isRunning ▸ table isTable node isRunning
      obtain ⟨gives, agree', quiet'⟩ := agree.performs still (arranged.steady steady) connected
        storable shown performs
      refine ⟨_, agree', steady.trans performs.steady, ?_, fun inhabited id => ?_⟩
      · rwa [List.map_append, List.map_singleton, Outcome.lastAgrees_append]
      · have served : scene.cluster.running ≠ [] := by
          intro deserted
          have empty := steady.runningAddresses
          rw [deserted] at empty
          exact inhabited (List.map_eq_nil_iff.mp empty.symm)
        rw [steady.accounts] at gives ⊢
        rw [gives, answerOf, if_neg served, held.find?_serve, filed inhabited, List.foldl_append]
        rfl

/-- When no listener takes a step meanwhile. -/
theorem Operated.poll {cluster : Cluster} {winner : Reply}
    (run : begun.Operated log (still cluster)) (connected : cluster.Connected me)
    (operation : Operation)
    (settled : (still cluster).Calm ∨ Outcome.LastAgrees (log.map Prod.snd))
    (storable : (operation.request cluster.accounts).Storable) (noTable : operation ≠ .listings)
    (wins : (operation.polled cluster me).1.winner? = some winner) :
    begun.Operated (log ++ [(operation, operation.outcome (.ok winner))])
      (still (operation.polled cluster me).2) := by
  obtain ⟨services, performs⟩ := Performs.of_polled me operation (still cluster)
  have next := run.perform connected operation settled storable
    (fun isTable => absurd isTable noTable) performs
  rw [Operation.gives] at next
  change begun.Operated (log ++ [(operation, operation.outcome
    ((operation.polled cluster me).1.winner?.elim _ _))]) _ at next
  rwa [wins] at next

/-- Before anything in the log there was the part of the run that led to it. -/
theorem Operated.of_mem {earlier later : List LogEntry} {entry : LogEntry}
    (run : begun.Operated (earlier ++ entry :: later) scene) :
    ∃ scene before after me services ballot, begun.Operated earlier scene ∧
      scene.cluster.Connected me ∧
      (scene.Calm ∨ Outcome.LastAgrees (earlier.map Prod.snd)) ∧
      (entry.1.request scene.cluster.accounts).Storable ∧
      (entry.1 = .listings →
        ∀ node ∈ scene.cluster.running, Text.Storable node.replica.listings) ∧
      Performs me entry.1 scene before services ballot after ∧ entry.2 = entry.1.gives ballot := by
  obtain ⟨log, isLog⟩ : ∃ log, log = earlier ++ entry :: later := ⟨_, rfl⟩
  rw [← isLog] at run
  induction run generalizing later with
  | begin => simp at isLog
  | listen run listens induction => exact induction isLog
  | @perform log scene before after me services ballot run connected operation settled storable
      table performs induction =>
      rcases List.eq_nil_or_concat later with rfl | ⟨rest, last, rfl⟩
      · obtain ⟨rfl, same⟩ := List.append_inj' isLog rfl
        obtain rfl := List.head_eq_of_cons_eq same
        exact ⟨_, _, _, _, _, _, run, connected, settled, storable, table, performs, rfl⟩
      · rw [List.concat_eq_append, ← List.cons_append, ← List.append_assoc] at isLog
        exact induction (List.append_inj' isLog rfl).1

/-- Whenever an auction is sold, it had been opened under its number, in the log or before it began,
and the price beats the reserve it was opened with.  If all bids on it since then were answered, it
is sold to the last bidder that was accepted, at the price of that bid; and if there was none, as it
was opened. -/
theorem Operated.sale {earlier later : List LogEntry} {owner name email : String} {id : AuctionId}
    {price : Price} (arranged : begun.cluster.Arranged) (agreed : begun.Agreed replica [])
    (calm : begun.Calm)
    (run : begun.Operated
      (earlier ++ (.close owner id, .closed (.ok (.sold name email price))) :: later) scene) :
    ∃ opened since, Opened id (replica.auctions.find? id) earlier opened since ∧
      opened.reservePrice < price ∧
      ((∀ entry ∈ since, entry.unanswered? id = none) →
        match (since.filterMap (accepted? id)).getLast? with
        | some (amount, bidder) =>
          name = bidder ∧ email = begun.cluster.accounts.emailOrPlaceholder bidder ∧
            price = amount
        | none =>
          name = opened.bidderName ∧ email = opened.bidderEmail ∧
            price = opened.currentPrice) := by
  obtain ⟨closing, before, after, me, services, ballot, run, connected, settled, storable, -,
    performs, sold⟩ := run.of_mem
  obtain ⟨held, agree, steady, quiet, filed⟩ := run.agreed arranged agreed calm
  have still : closing.Calm := quiet.elim (fun still => still) settled.resolve_right
  obtain ⟨gives, -⟩ := agree.performs still (arranged.steady steady) connected storable (by simp)
    performs
  rw [gives] at sold
  have inhabited : closing.cluster.running ≠ [] := by
    intro deserted
    simp [answerOf, deserted, Operation.outcome, Except.bind] at sold
  rw [answerOf, if_neg inhabited] at sold
  obtain ⟨auction, removed, concluded⟩ := Replica.removed_of_sold sold.symm
  have found := (Replica.remove_of_some removed).1
  have served : begun.cluster.running ≠ [] := by
    intro deserted
    have empty := steady.runningAddresses
    rw [deserted] at empty
    exact inhabited (List.map_eq_nil_iff.mp empty)
  rw [filed served] at found
  obtain ⟨opened, since, story, reserve, carries⟩ := opened_of_foldl found
  obtain ⟨beaten, rfl, rfl, rfl⟩ := auction.of_sold concluded
  refine ⟨opened, since, story, reserve ▸ beaten, fun answered => ?_⟩
  rw [carries answered]
  cases last : (since.filterMap (accepted? id)).getLast? with
  | none => exact ⟨rfl, rfl, rfl⟩
  | some bid => exact ⟨rfl, rfl, rfl⟩

end Scene

/-- An auction that starts at ten, with a reserve of five, is opened. -/
def lampOpening : Operation := .create "Ann" ⟨0x4024000000000000⟩ "Lamp" ⟨0x4014000000000000⟩

/-- Somebody bids twenty for it. -/
def lampBid : Operation := .bid 1000 ⟨0x4034000000000000⟩ "Bob"

/-- The owner closes it. -/
def lampClosing : Operation := .close "Ann" 1000

/-- An auction is opened at a price that is no number. -/
def rugOpening : Operation := .create "Ann" ⟨0x7ff8000000000000⟩ "Rug" ⟨0⟩

/-- The owner closes it. -/
def rugClosing : Operation := .close "Ann" 1001

namespace Cluster

/-- Three nodes that hold no auctions. -/
def vacant : Cluster := drifted.revise (fun _ => .fresh 1000 5000) []

theorem orderly_vacant : vacant.Orderly := orderly_drifted.revise (by decide) []

theorem connected_vacant : vacant.Connected ⟨.multicast, 1⟩ :=
  ⟨by decide, by decide, by decide⟩

/-- The three nodes after the opening. -/
def furnished : Cluster := (lampOpening.polled vacant ⟨.multicast, 1⟩).2

/-- The three nodes after the bid. -/
def contested : Cluster := (lampBid.polled furnished ⟨.multicast, 1⟩).2

theorem steady_furnished : vacant.Steady furnished :=
  Scene.steady_polled lampOpening vacant ⟨.multicast, 1⟩

theorem connected_furnished : furnished.Connected ⟨.multicast, 1⟩ :=
  connected_vacant.steady steady_furnished

theorem connected_contested : contested.Connected ⟨.multicast, 1⟩ :=
  connected_furnished.steady (Scene.steady_polled lampBid furnished ⟨.multicast, 1⟩)

/-! ### States that come late -/

/-- The three nodes after another auction has been opened, whose price is no number. -/
def cluttered : Cluster := (rugOpening.polled furnished ⟨.multicast, 1⟩).2

/-- That auction has been closed, and the second and the third node are told to copy the state of
the first one. -/
def cleared : Cluster := (rugClosing.polled cluttered ⟨.multicast, 1⟩).2

theorem connected_cluttered : cluttered.Connected ⟨.multicast, 1⟩ :=
  connected_furnished.steady (Scene.steady_polled rugOpening furnished ⟨.multicast, 1⟩)

theorem connected_cleared : cleared.Connected ⟨.multicast, 1⟩ :=
  connected_cluttered.steady (Scene.steady_polled rugClosing cluttered ⟨.multicast, 1⟩)

/-- Both have come to the command, and a bid on the first auction has been accepted. -/
def outdated : Cluster :=
  (lampBid.polled (cleared.heeding [⟨.multicast, 4⟩, ⟨.multicast, 6⟩]) ⟨.multicast, 1⟩).2

/-- The state that they have fetched before. -/
def stale : Snapshot :=
  let opened := ((Replica.fresh 1000 5000).serve (lampOpening.request (.table []))).2
  let cluttered := (opened.serve (rugOpening.request (.table []))).2
  (cluttered.serve (rugClosing.request (.table []))).2.snapshot

/-- They have put it in the place of their own. -/
def forgetful : Cluster := outdated.restoring [⟨.multicast, 4⟩, ⟨.multicast, 6⟩] stale

end Cluster

namespace Scene

open Cluster

theorem calm_vacant : (still vacant).Calm where
  fetched := fun _ => rfl
  untold := by decide

theorem agreed_vacant : (still vacant).Agreed (.fresh 1000 5000) [] where
  nodes := orderly_vacant.nodes
  unanimous := by
    intro node isRunning
    change node ∈ vacant.running at isRunning
    rw [vacant, running_revise] at isRunning
    obtain ⟨old, -, rfl⟩ := List.mem_map.mp isRunning
    rfl
  storable := by simp [Snapshot.Storable, Replica.fresh, Catalogue.empty, Replica.snapshot]
  handed := by
    intro member listed subscribed state source
    have running : vacant.running.map Node.address =
        [⟨.multicast, 2⟩, ⟨.multicast, 4⟩, ⟨.multicast, 6⟩] := rfl
    change member ∈ drifted.hub.members at listed
    change state = .node ∧ (member.address ∈ vacant.running.map Node.address ∨ _)
    simp only [drifted, List.mem_cons, List.not_mem_nil, or_false] at listed
    rw [running]
    rcases listed with rfl | rfl | rfl | rfl
    · contradiction
    all_goals
      obtain rfl := Option.some.inj source
      simp
  told := by simp
  fetched := by simp [still]
  waiting := by simp

theorem operated_furnished :
    (still vacant).Operated [(lampOpening, .created (.ok 1000))] (still furnished) := by
  have wins : (lampOpening.polled vacant ⟨.multicast, 1⟩).1.winner? =
      some (.added (some 1000)) := by
    decide +kernel
  exact Operated.begin.poll connected_vacant lampOpening (.inl calm_vacant)
    ⟨by decide, by decide, by decide, by decide⟩ (by simp [lampOpening]) wins

theorem operated_contested :
    (still vacant).Operated [(lampOpening, .created (.ok 1000)), (lampBid, .bid (.ok .accepted))]
      (still contested) := by
  have wins : (lampBid.polled furnished ⟨.multicast, 1⟩).1.winner? = some (.bid .accepted) := by
    decide +kernel
  have storable : (lampBid.request furnished.accounts).Storable := by
    rw [steady_furnished.accounts]
    exact ⟨by decide, by decide⟩
  exact operated_furnished.poll connected_furnished lampBid
    (.inr (by simp [Outcome.LastAgrees, Outcome.Agrees])) storable (by simp [lampBid]) wins

/-- When the auction is closed it goes to the only bidder. -/
theorem Operated.sale_contested :
    ∃ scene, (still vacant).Operated
        [(lampOpening, .created (.ok 1000)), (lampBid, .bid (.ok .accepted)),
          (lampClosing, .closed (.ok (.sold "Bob" noEmail ⟨0x4034000000000000⟩)))] scene ∧
      ∃ opened since,
        Opened 1000 none [(lampOpening, .created (.ok 1000)), (lampBid, .bid (.ok .accepted))]
            opened since ∧
          opened.reservePrice < ⟨0x4034000000000000⟩ ∧
          ((∀ entry ∈ since, entry.unanswered? 1000 = none) →
            match (since.filterMap (accepted? 1000)).getLast? with
            | some (amount, bidder) =>
              "Bob" = bidder ∧ noEmail = (Accounts.table []).emailOrPlaceholder bidder ∧
                ⟨0x4034000000000000⟩ = amount
            | none =>
              "Bob" = opened.bidderName ∧ noEmail = opened.bidderEmail ∧
                ⟨0x4034000000000000⟩ = opened.currentPrice) := by
  have wins : (lampClosing.polled contested ⟨.multicast, 1⟩).1.winner? =
      some (.removed (some ((Auction.unbid "Ann" ⟨0x4024000000000000⟩ "Lamp"
        ⟨0x4014000000000000⟩).withBid ⟨0x4034000000000000⟩ "Bob" noEmail))) := by
    decide +kernel
  have owner : Text.Storable "Ann" := by decide
  have run := operated_contested.poll connected_contested lampClosing
    (.inr (by simp [Outcome.LastAgrees, Outcome.Agrees])) owner (by simp [lampClosing]) wins
  exact ⟨_, run, Operated.sale orderly_vacant.toArranged agreed_vacant calm_vacant run⟩

/-! ### Sales to nobody -/

theorem operated_cleared : ∃ log, (still vacant).Operated log (still cleared) := by
  have adds : (rugOpening.polled furnished ⟨.multicast, 1⟩).1.winner? =
      some (.added (some 1001)) := by
    decide +kernel
  have removes : (rugClosing.polled cluttered ⟨.multicast, 1⟩).1.winner? =
      some (.removed (some (.unbid "Ann" ⟨0x7ff8000000000000⟩ "Rug" ⟨0⟩))) := by
    decide +kernel
  have opened := operated_furnished.poll connected_furnished rugOpening
    (.inr (by simp [Outcome.LastAgrees, Outcome.Agrees]))
    ⟨by decide, by decide, by decide, by decide⟩ (by simp [rugOpening]) adds
  have given : rugOpening.outcome (.ok (.added (some 1001))) = .created (.ok 1001) := rfl
  rw [given] at opened
  have owner : Text.Storable "Ann" := by decide
  exact ⟨_, opened.poll connected_cluttered rugClosing
    (.inr (by simp [Outcome.LastAgrees, Outcome.Agrees])) owner (by simp [rugClosing]) removes⟩

theorem due_cleared :
    ∀ address ∈ [⟨.multicast, 4⟩, ⟨.multicast, 6⟩], cleared.Due address stale := by
  have runs : ∀ address ∈ [⟨.multicast, 4⟩, ⟨.multicast, 6⟩],
      address ∈ cleared.running.map Node.address := by
    decide +kernel
  have waiting : ∀ address ∈ [⟨.multicast, 4⟩, ⟨.multicast, 6⟩], cleared.hub.queueOf address =
      [.message ⟨.multicast, 1⟩ (.command .sync ⟨.multicast, 2⟩)] := by
    decide +kernel
  have handed : ∀ address ∈ [⟨.multicast, 4⟩, ⟨.multicast, 6⟩],
      (cleared.fetchSnapshot address ⟨.multicast, 2⟩).toOption = some stale := by
    decide +kernel
  exact fun address isLate => ⟨runs address isLate, _, _, _, waiting address isLate, rfl,
    fetchSnapshot_eq_ok (handed address isLate)⟩

/-- If nobody bids the auction is sold all the same: its start price beats the reserve.  And if
somebody does so before nodes have put the states that they copy in the place of their own, then it
is not sold to this bidder, even if everybody has stopped copying when it is closed. -/
theorem Operated.not_bought :
    (¬∀ (begun scene : Scene) (replica : Replica) (log : List LogEntry)
      (owner name email : String) (id : AuctionId) (price : Price),
      begun.cluster.Arranged → begun.Agreed replica [] → begun.Calm →
        begun.Operated (log ++ [(.close owner id, .closed (.ok (.sold name email price)))]) scene →
          ∃ entry ∈ log, (entry.accepted? id).isSome) ∧
    ¬∀ (begun cleared scene before bidden rested before' after : Scene) (replica : Replica)
      (log : List LogEntry) (me : Address) (services services' : List Service)
      (ballot ballot' : Ballot Reply) (owner bidder name email : String) (id : AuctionId)
      (amount price : Price),
      begun.cluster.Arranged → begun.Agreed replica [] → begun.Calm →
        begun.Operated log cleared → cleared.Meanwhile scene → scene.cluster.Connected me →
          Performs me (.bid id amount bidder) scene before services ballot bidden →
            (Operation.bid id amount bidder).gives ballot = .bid (.ok .accepted) →
              bidden.Meanwhile rested → rested.Calm →
                Performs me (.close owner id) rested before' services' ballot' after →
                  (Operation.close owner id).gives ballot' =
                    .closed (.ok (.sold name email price)) → name = bidder := by
  constructor
  · intro bought
    have wins : (lampClosing.polled furnished ⟨.multicast, 1⟩).1.winner? =
        some (.removed (some (.unbid "Ann" ⟨0x4024000000000000⟩ "Lamp" ⟨0x4014000000000000⟩))) := by
      decide +kernel
    have owner : Text.Storable "Ann" := by decide
    have run := operated_furnished.poll connected_furnished lampClosing
      (.inr (by simp [Outcome.LastAgrees, Outcome.Agrees])) owner (by simp [lampClosing]) wins
    obtain ⟨entry, listed, accepted⟩ := bought _ _ _ _ _ _ _ _ _ orderly_vacant.toArranged
      agreed_vacant calm_vacant run
    rw [List.mem_singleton.mp listed] at accepted
    simp [accepted?, lampOpening] at accepted
  · intro bought
    obtain ⟨log, run⟩ := operated_cleared
    obtain ⟨scene, before, services, bidden, heeds, performs, restores⟩ :=
      Performs.of_late ⟨.multicast, 1⟩ lampBid (by decide) due_cleared
    rw [← outdated, ← forgetful] at restores
    obtain ⟨services', closes⟩ := Performs.of_polled ⟨.multicast, 1⟩ lampClosing (still forgetful)
    have calm : (still forgetful).Calm := ⟨fun _ => rfl, by decide +kernel⟩
    have accepted : lampBid.gives (lampBid.polled (cleared.heeding
        [⟨.multicast, 4⟩, ⟨.multicast, 6⟩]) ⟨.multicast, 1⟩).1 = .bid (.ok .accepted) := by
      have wins : (lampBid.polled (cleared.heeding [⟨.multicast, 4⟩, ⟨.multicast, 6⟩])
          ⟨.multicast, 1⟩).1.winner? = some (.bid .accepted) := by
        decide +kernel
      rw [Operation.gives, wins]
      rfl
    have sold : lampClosing.gives (lampClosing.polled forgetful ⟨.multicast, 1⟩).1 =
        .closed (.ok (.sold noBidder noEmail ⟨0x4024000000000000⟩)) := by
      have wins : (lampClosing.polled forgetful ⟨.multicast, 1⟩).1.winner? =
          some (.removed (some (.unbid "Ann" ⟨0x4024000000000000⟩ "Lamp"
            ⟨0x4014000000000000⟩))) := by
        decide +kernel
      rw [Operation.gives, wins]
      rfl
    have named := bought _ _ _ _ _ _ _ _ _ _ _ _ _ _ _ _ _ _ _ _ _ _
      orderly_vacant.toArranged agreed_vacant calm_vacant run heeds
      (heeds.connected connected_cleared) performs accepted restores calm closes sold
    exact absurd named (by decide)

end Scene

end AuctionHouse
