import Mathlib.Tactic.SplitIfs
import AuctionHouse.Proofs.WireRoundTrip

/-!
# The wire format is a prefix code

A value is read back from its bytes whatever follows them, and bytes that break off before the value
is complete are refused for being too few.  The second half does not follow from the first one: a
reader could well take the beginning of a long value for a short value.  None does, because every
reader of the format goes through its bytes from the front.  If it succeeds, then cutting off its
input either leaves its result alone or makes it miss bytes; so on a part of the bytes of a value it
either reads that value, and then nothing was cut off, or it misses bytes.
-/

namespace AuctionHouse

namespace Wire

namespace Reader

variable {value other : Type}

/-- A reader goes through its bytes from the front: if it succeeds, then at the front of the same
bytes it reads the same value or finds that bytes are missing. -/
def Incremental (reader : Reader value) : Prop :=
  ∀ ⦃front more : List UInt8⦄ ⦃result : value⦄ ⦃rest : List UInt8⦄,
    reader (front ++ more) = .ok (result, rest) →
      (∃ left, reader front = .ok (result, left) ∧ rest = left ++ more) ∨
        ∃ additional, reader front = .error (.unexpectedEnd additional)

/-- A chain that succeeds does so in both of its parts. -/
theorem bind_eq_ok {reader : Reader value} {next : value → Reader other}
    {bytes rest : List UInt8} {result : other}
    (reads : (reader >>= next) bytes = .ok (result, rest)) :
    ∃ first between, reader bytes = .ok (first, between) ∧
      next first between = .ok (result, rest) := by
  cases outcome : reader bytes with
  | error fault =>
      rw [bind_of_error outcome] at reads
      contradiction
  | ok answer =>
      obtain ⟨first, between⟩ := answer
      rw [bind_of_ok outcome] at reads
      exact ⟨first, between, rfl, reads⟩

/-! ## What keeps readers incremental -/

theorem incremental_pure (result : value) : Incremental (pure result : Reader value) := by
  intro front more other rest reads
  obtain ⟨same, left⟩ : result = other ∧ front ++ more = rest := by
    simpa using reads
  subst same
  exact .inl ⟨front, rfl, left.symm⟩

theorem incremental_refuse (fault : Fault) : Incremental (refuse fault : Reader value) := by
  intro front more result rest reads
  contradiction

theorem Incremental.bind {reader : Reader value} {next : value → Reader other}
    (reads : reader.Incremental) (goesOn : ∀ first, (next first).Incremental) :
    (reader >>= next).Incremental := by
  intro front more result rest whole
  obtain ⟨first, between, here, there⟩ := bind_eq_ok whole
  obtain ⟨left, inFront, split⟩ | ⟨additional, missing⟩ := reads here
  · rw [split] at there
    rw [bind_of_ok inFront]
    exact goesOn first there
  · exact .inr ⟨additional, bind_of_error missing⟩

/-- What is made of the value afterwards does not matter. -/
theorem Incremental.map {reader : Reader value} (reads : reader.Incremental)
    (wrap : value → other) : (do pure (wrap (← reader)) : Reader other).Incremental :=
  reads.bind fun result => incremental_pure (wrap result)

theorem incremental_byte : byte.Incremental := by
  intro front more first rest reads
  cases front with
  | nil => exact .inr ⟨1, rfl⟩
  | cons head tail =>
      obtain ⟨same, left⟩ : head = first ∧ tail ++ more = rest := by
        simpa [byte] using reads
      subst same
      exact .inl ⟨tail, rfl, left.symm⟩

theorem incremental_take (count : Nat) : (take count).Incremental := by
  intro front more part rest reads
  by_cases enough : count ≤ front.length
  · have inFront : take count front = .ok (front.take count, front.drop count) := by
      simp [take, enough]
    have inWhole : take count (front ++ more) =
        .ok (front.take count, front.drop count ++ more) := by
      have enoughAlso : count ≤ (front ++ more).length := by
        rw [List.length_append]
        omega
      simp only [take, List.take_append_of_le_length enough, List.drop_append_of_le_length enough,
        List.length_take, Nat.min_eq_left enough, Nat.lt_irrefl, if_false]
    obtain ⟨same, left⟩ : front.take count = part ∧ front.drop count ++ more = rest := by
      simpa using inWhole.symm.trans reads
    subst same
    exact .inl ⟨front.drop count, inFront, left.symm⟩
  · have short : (front.take count).length < count := by
      rw [List.length_take]
      omega
    exact .inr ⟨count - (front.take count).length, if_pos short⟩

theorem Incremental.repeatOnto {reader : Reader value} (reads : reader.Incremental) (count : Nat)
    (done : List value) : (reader.repeatOnto count done).Incremental := by
  induction count generalizing done with
  | zero => exact incremental_pure done.reverse
  | succ count induction => exact reads.bind fun value => induction (value :: done)

theorem Incremental.replicate {reader : Reader value} (reads : reader.Incremental) (count : Nat) :
    (Reader.replicate count reader).Incremental :=
  reads.repeatOnto count []

end Reader

open Reader

/-! ## Integers -/

theorem incremental_readMarked (isWide : Bool) (expected : IntegerKind) (first : UInt8) :
    (readMarked isWide expected first).Incremental := by
  have number (count : Nat) := (incremental_take count).map ofLittleEndian
  unfold readMarked
  split_ifs
  · exact incremental_pure first.toNat
  · exact number 2
  · exact number 4
  · exact number 8
  · exact incremental_refuse _
  · exact incremental_refuse _
  · exact incremental_refuse _

/-- Behind a marker that is taken, the kind that was expected does not matter: it only appears in
refusals of the marker. -/
theorem readMarked_of_ok {isWide : Bool} {expected : IntegerKind} {first : UInt8}
    {bytes rest : List UInt8} {number : Nat}
    (reads : readMarked isWide expected first bytes = .ok (number, rest)) (other : IntegerKind) :
    readMarked isWide other first = readMarked isWide expected first := by
  unfold readMarked at reads ⊢
  split_ifs at reads ⊢
  · rfl
  · rfl
  · rfl
  · rfl
  · contradiction
  · contradiction
  · contradiction

theorem incremental_readWord32 : readWord32.Incremental :=
  incremental_byte.bind fun first => incremental_readMarked false .word32 first

theorem incremental_readLength : readLength.Incremental :=
  incremental_byte.bind fun first => incremental_readMarked true .length first

/-- The kind that a reader of 64 bits expects depends on how many bytes are in sight, so it is not
a chain of incremental readers, and still incremental. -/
theorem incremental_readWord64 : readWord64.Incremental := by
  intro front more number rest reads
  cases front with
  | nil => exact .inr ⟨1, rfl⟩
  | cons first tail =>
      let expected (bytes : List UInt8) : IntegerKind :=
        if (bytes.drop 8).isEmpty then .word64 else .word32
      have behind (bytes : List UInt8) :
          readWord64 (first :: bytes) = readMarked true (expected (first :: bytes)) first bytes :=
        rfl
      rw [List.cons_append, behind] at reads
      rw [behind, readMarked_of_ok reads]
      exact incremental_readMarked true _ first reads

theorem incremental_readSigned64 : readSigned64.Incremental := by
  intro front more integer rest reads
  unfold readSigned64 at reads ⊢
  cases whole : readWord64 (front ++ more) with
  | error fault =>
      rw [whole] at reads
      contradiction
  | ok answer =>
      obtain ⟨number, left⟩ := answer
      rw [whole] at reads
      obtain ⟨same, rest_eq⟩ : unfold number = integer ∧ left = rest := by
        simpa using reads
      subst same rest_eq
      obtain ⟨inFront, read, split⟩ | ⟨additional, missing⟩ := incremental_readWord64 whole
      · rw [read]
        exact .inl ⟨inFront, rfl, split⟩
      · rw [missing]
        exact .inr ⟨additional, rfl⟩

/-! ## The readers of the format -/

theorem incremental_uint32 : (read : Reader UInt32).Incremental :=
  incremental_readWord32.map UInt32.ofNat

theorem incremental_uint64 : (read : Reader UInt64).Incremental :=
  incremental_readWord64.map UInt64.ofNat

theorem incremental_int64 : (read : Reader Int64).Incremental :=
  incremental_readSigned64.map Int64.ofInt

theorem incremental_price : (read : Reader Price).Incremental :=
  (incremental_take 8).map fun bytes => Price.mk (UInt64.ofNat (ofLittleEndian bytes))

theorem incremental_text : (read : Reader String).Incremental := by
  refine incremental_readWord64.bind fun length => ?_
  refine (incremental_take length).bind fun bytes => ?_
  split
  · exact incremental_pure _
  · exact incremental_refuse _

theorem incremental_option {value : Type} [Wire value]
    (present : (read : Reader value).Incremental) :
    (read : Reader (Option value)).Incremental := by
  refine incremental_byte.bind fun mark => ?_
  split
  · exact incremental_pure none
  · exact present.map some
  · exact incremental_refuse _

theorem incremental_pair {first second : Type} [Wire first] [Wire second]
    (left : (read : Reader first).Incremental) (right : (read : Reader second).Incremental) :
    (read : Reader (first × second)).Incremental :=
  left.bind fun one => right.map fun two => (one, two)

theorem incremental_readChoice {value : Type} {count : Nat} {alternative : Nat → Reader value}
    (each : ∀ chosen, (alternative chosen).Incremental) :
    (readChoice count alternative).Incremental := by
  refine incremental_readWord32.bind fun chosen => ?_
  split
  · exact each chosen
  · exact incremental_refuse _

theorem incremental_auction : (read : Reader Auction).Incremental := by
  refine incremental_price.bind fun currentPrice => ?_
  refine incremental_price.bind fun reservePrice => ?_
  refine incremental_text.bind fun description => ?_
  refine incremental_text.bind fun owner => ?_
  refine incremental_text.bind fun bidderName => ?_
  exact incremental_text.map _

theorem incremental_bidOutcome : (read : Reader BidOutcome).Incremental := by
  refine incremental_readChoice fun chosen => ?_
  split <;> exact incremental_pure _

theorem incremental_address : (read : Reader Address).Incremental := by
  have channelIncremental : (read : Reader Channel).Incremental := by
    refine incremental_readChoice fun chosen => ?_
    split <;> exact incremental_pure _
  refine channelIncremental.bind fun channel => ?_
  exact incremental_uint64.map _

theorem incremental_request : (read : Reader Request).Incremental := by
  refine incremental_readChoice fun chosen => ?_
  split
  · exact incremental_pure Request.fingerprint
  · exact incremental_auction.map Request.addAuction
  · refine incremental_text.bind fun requester => ?_
    exact incremental_uint32.map (Request.removeAuction requester)
  · refine incremental_uint32.bind fun id => ?_
    refine incremental_price.bind fun amount => ?_
    refine incremental_text.bind fun name => ?_
    exact incremental_text.map (Request.placeBid id amount name)
  · exact incremental_pure Request.listings

theorem incremental_reply : (read : Reader Reply).Incremental := by
  refine incremental_readChoice fun chosen => ?_
  split
  · exact incremental_int64.map Reply.fingerprint
  · exact (incremental_option incremental_uint32).map Reply.added
  · exact (incremental_option incremental_auction).map Reply.removed
  · exact incremental_bidOutcome.map Reply.bid
  · exact incremental_text.map Reply.listings

theorem incremental_command : (read : Reader Command).Incremental :=
  incremental_readChoice fun _ => incremental_pure Command.sync

theorem incremental_multicast : (read : Reader Multicast).Incremental := by
  refine incremental_readChoice fun chosen => ?_
  split
  · refine incremental_command.bind fun command => ?_
    exact incremental_address.map (Multicast.command command)
  · refine incremental_address.bind fun rpc => ?_
    exact incremental_address.map (Multicast.announce rpc)

theorem incremental_envelope : (read : Reader Envelope).Incremental := by
  refine incremental_address.bind fun sender => ?_
  refine (incremental_option incremental_address).bind fun receiver => ?_
  exact incremental_multicast.map _

theorem incremental_catalogue {value : Type} [Wire value]
    (entry : (read : Reader value).Incremental) :
    (read : Reader (Catalogue value)).Incremental := by
  refine incremental_readLength.bind fun count => ?_
  have rows := (incremental_pair incremental_uint32 entry).replicate count
  exact rows.map Catalogue.ofList

theorem incremental_snapshot : (read : Reader Snapshot).Incremental := by
  refine incremental_uint32.bind fun nextId => ?_
  refine (incremental_catalogue incremental_auction).bind fun auctions => ?_
  exact incremental_int64.map _

/-! ## Values and parts of their bytes -/

/-- The bytes of a value tell by themselves where they end. -/
structure SelfDelimiting {value : Type} [Wire value] (sent : value) : Prop where
  /-- The value is read back whatever follows its bytes. -/
  whole (more : List UInt8) : decode value (write sent ++ more) = .ok sent
  /-- Bytes that break off before the value is complete are too few for any value. -/
  cut {front : List UInt8} (part : front <+: write sent) (proper : front ≠ write sent) :
    ∃ additional, decode value front = .error (.unexpectedEnd additional)

theorem Survives.selfDelimiting {value : Type} [Wire value] {sent : value}
    (survives : Survives sent) (incremental : (read : Reader value).Incremental) :
    SelfDelimiting sent where
  whole more := by
    rw [decode, survives more]
    rfl
  cut := by
    intro front part proper
    obtain ⟨more, joined⟩ := part
    have reads : (read : Reader value) (front ++ more) = .ok (sent, []) := by
      simpa [joined] using survives []
    obtain ⟨left, -, nothing⟩ | ⟨additional, missing⟩ := incremental reads
    · obtain ⟨-, complete⟩ := List.append_eq_nil_iff.mp nothing.symm
      rw [complete, List.append_nil] at joined
      exact absurd joined proper
    · refine ⟨additional, ?_⟩
      rw [decode, missing]
      rfl

/-- Whatever travels between processes tells by itself where its bytes end. -/
theorem format_selfDelimiting :
    (∀ request : Request, request.Storable → SelfDelimiting request) ∧
      (∀ reply : Reply, reply.Storable → SelfDelimiting reply) ∧
      (∀ envelope : Envelope, SelfDelimiting envelope) ∧
      (∀ body : Multicast, SelfDelimiting body) ∧
      (∀ command : Command, SelfDelimiting command) ∧
      (∀ snapshot : Snapshot, snapshot.Storable → SelfDelimiting snapshot) ∧
      (∀ auction : Auction, auction.Storable → SelfDelimiting auction) ∧
      (∀ address : Address, SelfDelimiting address) ∧
      (∀ outcome : BidOutcome, SelfDelimiting outcome) := by
  refine ⟨fun request storable => ?_, fun reply storable => ?_, fun envelope => ?_, fun body => ?_,
    fun command => ?_, fun snapshot storable => ?_, fun auction storable => ?_, fun address => ?_,
    fun outcome => ?_⟩
  · exact (survives_request storable).selfDelimiting incremental_request
  · exact (survives_reply storable).selfDelimiting incremental_reply
  · exact (survives_envelope envelope).selfDelimiting incremental_envelope
  · exact (survives_multicast body).selfDelimiting incremental_multicast
  · exact (survives_command command).selfDelimiting incremental_command
  · exact (survives_snapshot storable).selfDelimiting incremental_snapshot
  · exact (survives_auction storable).selfDelimiting incremental_auction
  · exact (survives_address address).selfDelimiting incremental_address
  · exact (survives_bidOutcome outcome).selfDelimiting incremental_bidOutcome

end Wire

/-- An auction with a price that is no number. -/
def Auction.priceless : Auction := .unbid "Zoë" ⟨0x7ff8000000000001⟩ "Lamp" ⟨0⟩

/-- A state with that auction as the only one, under the greatest number. -/
def Snapshot.priceless : Snapshot where
  nextId := 4294967295
  auctions := Catalogue.empty.insert 4294967295 .priceless
  fingerprint := -1

theorem Auction.storable_priceless : Auction.priceless.Storable where
  description := by decide
  owner := by decide
  bidderName := by decide
  bidderEmail := by decide

theorem Snapshot.storable_priceless : Snapshot.priceless.Storable := by
  intro row listed
  obtain rfl : row = (4294967295, .priceless) := List.mem_singleton.mp listed
  exact Auction.storable_priceless

/-- Neither a price that is no number nor a name with two bytes for a letter blurs the ends. -/
theorem Wire.format_selfDelimiting_priceless :
    let request := Request.addAuction .priceless
    let reply := Reply.removed (some .priceless)
    (request.Storable ∧ SelfDelimiting request) ∧ (reply.Storable ∧ SelfDelimiting reply) ∧
      (Snapshot.priceless.Storable ∧ SelfDelimiting Snapshot.priceless) ∧
      (Auction.priceless.Storable ∧ SelfDelimiting Auction.priceless) := by
  intro request reply
  obtain ⟨requests, replies, -, -, -, snapshots, auctions, -, -⟩ := format_selfDelimiting
  have storable := Auction.storable_priceless
  refine ⟨⟨storable, requests request storable⟩, ⟨storable, replies reply storable⟩, ?_, ?_⟩
  · exact ⟨Snapshot.storable_priceless, snapshots _ Snapshot.storable_priceless⟩
  · exact ⟨storable, auctions _ storable⟩

end AuctionHouse
