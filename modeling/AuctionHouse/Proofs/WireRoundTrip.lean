import Mathlib.Data.Fintype.Card
import Mathlib.Data.List.Nodup
import AuctionHouse.Wire.Format

/-!
# Values survive the wire

What is written is read back, whatever bytes follow it.  The one condition is on texts: the length
of a text is written as a number of 64 bits, so a text has to have fewer than 2 ^ 64 bytes, as every
text in a machine's memory has.  Catalogues need no condition, since there are only 2 ^ 32 numbers
to file under.
-/

namespace AuctionHouse

/-- A text is short enough for its length to be written. -/
def Text.Storable (text : String) : Prop := (Text.utf8Bytes text).length < UInt64.size

instance (text : String) : Decidable (Text.Storable text) := inferInstanceAs (Decidable (_ < _))

/-- All texts of an auction are short enough. -/
structure Auction.Storable (auction : Auction) : Prop where
  description : Text.Storable auction.description
  owner : Text.Storable auction.owner
  bidderName : Text.Storable auction.bidderName
  bidderEmail : Text.Storable auction.bidderEmail

/-- All texts of a snapshot are short enough. -/
def Snapshot.Storable (snapshot : Snapshot) : Prop :=
  ∀ row ∈ snapshot.auctions.rows, row.2.Storable

/-- All texts of a request are short enough. -/
def Request.Storable : Request → Prop
  | .addAuction auction => auction.Storable
  | .removeAuction requester _ => Text.Storable requester
  | .placeBid _ _ name email => Text.Storable name ∧ Text.Storable email
  | .fingerprint | .listings => True

/-- All texts of a reply are short enough. -/
def Reply.Storable : Reply → Prop
  | .removed (some auction) => auction.Storable
  | .listings text => Text.Storable text
  | .fingerprint _ | .added _ | .removed none | .bid _ => True

namespace Wire

/-- A value is read back from what is written for it, and what follows is left alone. -/
def Survives {value : Type} [Wire value] (sent : value) : Prop :=
  ∀ rest, (read : Reader value) (write sent ++ rest) = .ok (sent, rest)

theorem transmit_of_survives {value : Type} [Wire value] {sent : value}
    (survives : Survives sent) : transmit sent = .ok sent := by
  have whole := survives []
  rw [List.append_nil] at whole
  rw [transmit, decode, whole]
  rfl

/-! ## Integers -/

theorem take_append (bytes rest : List UInt8) :
    Reader.take bytes.length (bytes ++ rest) = .ok (bytes, rest) := by
  simp [Reader.take]

private theorem take_littleEndian (count : Nat) {number : Nat} (fits : number < Nat.pow 256 count)
    (rest : List UInt8) :
    (do pure (ofLittleEndian (← Reader.take count)) : Reader Nat)
        (littleEndian count number ++ rest) = .ok (number, rest) := by
  have taken := take_append (littleEndian count number) rest
  rw [length_littleEndian] at taken
  rw [Reader.bind_of_ok taken, Reader.pure_apply, ofLittleEndian_littleEndian fits]

private theorem readMarked_small {isWide : Bool} {expected : IntegerKind} {number : Nat}
    (small : number ≤ 250) (rest : List UInt8) :
    readMarked isWide expected (UInt8.ofNat number) rest = .ok (number, rest) := by
  have value : (UInt8.ofNat number).toNat = number := by
    rw [UInt8.toNat_ofNat']
    omega
  have below : UInt8.ofNat number ≤ 250 := by
    rw [UInt8.le_iff_toNat_le, value]
    exact small
  rw [readMarked, if_pos below, Reader.pure_apply, value]

/-- A number is read back behind its marker, by a narrow reader if it has 32 bits at most. -/
theorem readMarked_writeNatural {isWide : Bool} {expected : IntegerKind} {number : Nat}
    (fits : number < UInt64.size) (narrow : isWide = false → number < UInt32.size)
    (rest : List UInt8) :
    (do readMarked isWide expected (← Reader.byte) : Reader Nat) (writeNatural number ++ rest) =
      .ok (number, rest) := by
  have behind (marker : UInt8) (tail : List UInt8) :
      (do readMarked isWide expected (← Reader.byte) : Reader Nat) (marker :: tail) =
        readMarked isWide expected marker tail := by
    have first : Reader.byte (marker :: tail) = .ok (marker, tail) := rfl
    exact Reader.bind_of_ok first
  rw [writeNatural]
  split
  · rename_i small
    rw [List.singleton_append, behind, readMarked_small small]
  · split
    · rename_i _ two
      rw [List.cons_append, behind]
      exact take_littleEndian 2 two rest
    · split
      · rename_i _ _ four
        rw [List.cons_append, behind]
        exact take_littleEndian 4 four rest
      · rename_i _ _ beyond
        cases isWide with
        | false => exact absurd (narrow rfl) beyond
        | true =>
            rw [List.cons_append, behind]
            exact take_littleEndian 8 fits rest

theorem readWord32_writeNatural {number : Nat} (fits : number < UInt32.size) (rest : List UInt8) :
    readWord32 (writeNatural number ++ rest) = .ok (number, rest) :=
  readMarked_writeNatural (Nat.lt_trans fits (by decide)) (fun _ => fits) rest

theorem readWord64_writeNatural {number : Nat} (fits : number < UInt64.size) (rest : List UInt8) :
    readWord64 (writeNatural number ++ rest) = .ok (number, rest) :=
  readMarked_writeNatural fits (fun narrow => by simp at narrow) rest

theorem readLength_writeNatural {number : Nat} (fits : number < UInt64.size) (rest : List UInt8) :
    readLength (writeNatural number ++ rest) = .ok (number, rest) :=
  readMarked_writeNatural fits (fun narrow => by simp at narrow) rest

/-! ## Words, prices and texts -/

theorem Survives.bind {value other : Type} [Wire value] {sent : value} (survives : Survives sent)
    (next : value → Reader other) (rest : List UInt8) :
    (read >>= next) (write sent ++ rest) = next sent rest :=
  Reader.bind_of_ok (survives rest)

theorem survives_uint32 (number : UInt32) : Survives number := by
  intro rest
  have fits : number.toNat < UInt32.size := number.toNat_lt_size
  change (do pure (UInt32.ofNat (← readWord32)) : Reader UInt32)
    (writeNatural number.toNat ++ rest) = _
  rw [Reader.bind_of_ok (readWord32_writeNatural fits rest), Reader.pure_apply, UInt32.ofNat_toNat]

theorem survives_uint64 (number : UInt64) : Survives number := by
  intro rest
  have fits : number.toNat < UInt64.size := number.toNat_lt_size
  change (do pure (UInt64.ofNat (← readWord64)) : Reader UInt64)
    (writeNatural number.toNat ++ rest) = _
  rw [Reader.bind_of_ok (readWord64_writeNatural fits rest), Reader.pure_apply, UInt64.ofNat_toNat]

private theorem fold_lt (number : Int64) : fold number.toInt < UInt64.size := by
  have lower := number.le_toInt
  have upper := number.toInt_lt
  unfold fold UInt64.size
  split <;> omega

theorem survives_int64 (number : Int64) : Survives number := by
  intro rest
  have signed : readSigned64 (writeNatural (fold number.toInt) ++ rest) =
      .ok (number.toInt, rest) := by
    rw [readSigned64, readWord64_writeNatural (fold_lt number)]
    simp
  change (do pure (Int64.ofInt (← readSigned64)) : Reader Int64)
    (writeNatural (fold number.toInt) ++ rest) = _
  rw [Reader.bind_of_ok signed, Reader.pure_apply, Int64.ofInt_toInt]

theorem survives_price (price : Price) : Survives price := by
  intro rest
  have fits : price.bits.toNat < Nat.pow 256 8 := price.bits.toNat_lt
  have taken := take_append (littleEndian 8 price.bits.toNat) rest
  rw [length_littleEndian] at taken
  change (do pure ⟨UInt64.ofNat (ofLittleEndian (← Reader.take 8))⟩ : Reader Price)
    (littleEndian 8 price.bits.toNat ++ rest) = _
  rw [Reader.bind_of_ok taken, Reader.pure_apply, ofLittleEndian_littleEndian fits,
    UInt64.ofNat_toNat]

theorem survives_text {text : String} (storable : Text.Storable text) : Survives text := by
  intro rest
  have counted := readWord64_writeNatural storable (Text.utf8Bytes text ++ rest)
  have taken := take_append (Text.utf8Bytes text) rest
  have sent : write text ++ rest =
      writeNatural (Text.utf8Bytes text).length ++ (Text.utf8Bytes text ++ rest) :=
    List.append_assoc _ _ _
  rw [sent]
  refine (Reader.bind_of_ok counted).trans ((Reader.bind_of_ok taken).trans ?_)
  simp only [Text.ofUtf8_utf8Bytes]
  rfl

/-! ## Options, pairs and choices -/

theorem survives_none {value : Type} [Wire value] : Survives (none : Option value) :=
  fun _ => rfl

theorem survives_some {value : Type} [Wire value] {present : value}
    (survives : Survives present) : Survives (some present) := by
  intro rest
  change (do pure (some (← read)) : Reader (Option value)) (write present ++ rest) = _
  rw [survives.bind]
  rfl

theorem survives_pair {first second : Type} [Wire first] [Wire second] {pair : first × second}
    (left : Survives pair.1) (right : Survives pair.2) : Survives pair := by
  intro rest
  change (do pure (← read, ← read) : Reader (first × second))
    (write pair.1 ++ write pair.2 ++ rest) = _
  rw [List.append_assoc, left.bind, right.bind]
  rfl

/-- Behind the number of an alternative its own reader takes over. -/
theorem readChoice_writeNatural {value : Type} {count chosen : Nat} (inside : chosen < count)
    (few : count < UInt32.size) (alternative : Nat → Reader value) (rest : List UInt8) :
    readChoice count alternative (writeNatural chosen ++ rest) = alternative chosen rest := by
  rw [readChoice, Reader.bind_of_ok (readWord32_writeNatural (Nat.lt_trans inside few) rest),
    if_pos inside]

theorem survives_auction {auction : Auction} (storable : auction.Storable) :
    Survives auction := by
  intro rest
  change (do
    pure {
      currentPrice := ← read, reservePrice := ← read, description := ← read, owner := ← read
      bidderName := ← read, bidderEmail := ← read } : Reader Auction)
    (write auction.currentPrice ++ write auction.reservePrice ++ write auction.description ++
      write auction.owner ++ write auction.bidderName ++ write auction.bidderEmail ++ rest) = _
  simp only [List.append_assoc]
  rw [(survives_price _).bind, (survives_price _).bind, (survives_text storable.description).bind,
    (survives_text storable.owner).bind, (survives_text storable.bidderName).bind,
    (survives_text storable.bidderEmail).bind]
  rfl

theorem survives_bidOutcome (outcome : BidOutcome) : Survives outcome := by
  intro rest
  cases outcome <;> exact readChoice_writeNatural (by decide) (by decide) _ rest

theorem survives_address (address : Address) : Survives address := by
  intro rest
  obtain ⟨channel, id⟩ := address
  have channelSurvives : Survives channel := by
    intro rest
    cases channel <;> exact readChoice_writeNatural (by decide) (by decide) _ rest
  change (do pure { channel := ← read, id := ← read } : Reader Address)
    (write channel ++ write id ++ rest) = _
  rw [List.append_assoc, channelSurvives.bind, (survives_uint64 id).bind]
  rfl

/-! ## Requests, replies and messages -/

theorem survives_request {request : Request} (storable : request.Storable) :
    Survives request := by
  intro rest
  cases request with
  | fingerprint => exact readChoice_writeNatural (by decide) (by decide) _ rest
  | addAuction auction =>
      change readChoice 5 _ (writeNatural 1 ++ write auction ++ rest) = _
      rw [List.append_assoc, readChoice_writeNatural (by decide) (by decide)]
      change (do pure (.addAuction (← read)) : Reader Request) (write auction ++ rest) = _
      rw [(survives_auction storable).bind]
      rfl
  | removeAuction requester id =>
      change readChoice 5 _ (writeNatural 2 ++ write requester ++ write id ++ rest) = _
      simp only [List.append_assoc]
      rw [readChoice_writeNatural (by decide) (by decide)]
      change (do pure (.removeAuction (← read) (← read)) : Reader Request)
        (write requester ++ (write id ++ rest)) = _
      rw [(survives_text storable).bind, (survives_uint32 id).bind]
      rfl
  | placeBid id amount name email =>
      change readChoice 5 _
        (writeNatural 3 ++ write id ++ write amount ++ write name ++ write email ++ rest) = _
      simp only [List.append_assoc]
      rw [readChoice_writeNatural (by decide) (by decide)]
      change (do pure (.placeBid (← read) (← read) (← read) (← read)) : Reader Request)
        (write id ++ (write amount ++ (write name ++ (write email ++ rest)))) = _
      rw [(survives_uint32 id).bind, (survives_price amount).bind, (survives_text storable.1).bind,
        (survives_text storable.2).bind]
      rfl
  | listings => exact readChoice_writeNatural (by decide) (by decide) _ rest

/-- An alternative that carries one value survives if the value does. -/
private theorem survives_reply_of {carried : Type} [Wire carried] {value : carried}
    (survives : Survives value) {chosen : Nat} (inside : chosen < 5)
    {alternative : Nat → Reader Reply} {wrap : carried → Reply}
    (reads : alternative chosen = do pure (wrap (← read))) (rest : List UInt8) :
    readChoice 5 alternative (writeNatural chosen ++ write value ++ rest) =
      .ok (wrap value, rest) := by
  rw [List.append_assoc, readChoice_writeNatural inside (by decide), reads, survives.bind]
  rfl

theorem survives_reply {reply : Reply} (storable : reply.Storable) : Survives reply := by
  intro rest
  cases reply with
  | fingerprint value => exact survives_reply_of (survives_int64 value) (by decide) rfl rest
  | added id =>
      have idSurvives : Survives id := by
        cases id with
        | none => exact survives_none
        | some number => exact survives_some (survives_uint32 number)
      exact survives_reply_of idSurvives (by decide) rfl rest
  | removed auction =>
      have auctionSurvives : Survives auction := by
        cases auction with
        | none => exact survives_none
        | some present => exact survives_some (survives_auction storable)
      exact survives_reply_of auctionSurvives (by decide) rfl rest
  | bid outcome => exact survives_reply_of (survives_bidOutcome outcome) (by decide) rfl rest
  | listings text => exact survives_reply_of (survives_text storable) (by decide) rfl rest

theorem survives_command (command : Command) : Survives command := by
  intro rest
  cases command
  exact readChoice_writeNatural (by decide) (by decide) _ rest

theorem survives_multicast (body : Multicast) : Survives body := by
  intro rest
  cases body with
  | command command peer =>
      change readChoice 2 _ (writeNatural 0 ++ write command ++ write peer ++ rest) = _
      simp only [List.append_assoc]
      rw [readChoice_writeNatural (by decide) (by decide)]
      change (do pure (.command (← read) (← read)) : Reader Multicast)
        (write command ++ (write peer ++ rest)) = _
      rw [(survives_command command).bind, (survives_address peer).bind]
      rfl
  | announce rpc multicast =>
      change readChoice 2 _ (writeNatural 1 ++ write rpc ++ write multicast ++ rest) = _
      simp only [List.append_assoc]
      rw [readChoice_writeNatural (by decide) (by decide)]
      change (do pure (.announce (← read) (← read)) : Reader Multicast)
        (write rpc ++ (write multicast ++ rest)) = _
      rw [(survives_address rpc).bind, (survives_address multicast).bind]
      rfl

/-- A message arrives as it was sent. -/
theorem survives_envelope (envelope : Envelope) : Survives envelope := by
  intro rest
  obtain ⟨sender, receiver, body⟩ := envelope
  have receiverSurvives : Survives receiver := by
    cases receiver with
    | none => exact survives_none
    | some only => exact survives_some (survives_address only)
  change (do pure { sender := ← read, receiver := ← read, body := ← read } : Reader Envelope)
    (write sender ++ write receiver ++ write body ++ rest) = _
  simp only [List.append_assoc]
  rw [(survives_address sender).bind, receiverSurvives.bind, (survives_multicast body).bind]
  rfl

/-! ## Catalogues and snapshots -/

private theorem repeatOnto_flatMap {value : Type} [Wire value] {values : List value}
    (survive : ∀ value ∈ values, Survives value) (done : List value) (rest : List UInt8) :
    (read : Reader value).repeatOnto values.length done (values.flatMap write ++ rest) =
      .ok (done.reverse ++ values, rest) := by
  induction values generalizing done with
  | nil => simp [Reader.repeatOnto]
  | cons head tail induction =>
      have first := survive head (by simp) (tail.flatMap write ++ rest)
      have others := induction (fun value member => survive value (by simp [member])) (head :: done)
      rw [List.flatMap_cons, List.append_assoc, List.length_cons, Reader.repeatOnto, first]
      simp [others]

theorem replicate_flatMap {value : Type} [Wire value] {values : List value}
    (survive : ∀ value ∈ values, Survives value) (rest : List UInt8) :
    Reader.replicate values.length read (values.flatMap write ++ rest) = .ok (values, rest) :=
  repeatOnto_flatMap survive [] rest

end Wire

namespace Catalogue

variable {value : Type}

private theorem insertRow_of_lt {id : AuctionId} {entry : value}
    {rows : List (AuctionId × value)} (above : ∀ row ∈ rows, id < row.1) :
    insertRow id entry rows = (id, entry) :: rows := by
  cases rows with
  | nil => rfl
  | cons head rest =>
      obtain ⟨key, other⟩ := head
      have below : id < key := above (key, other) (by simp)
      have notBelow : ¬key < id := fun reverse => UInt32.lt_asymm below reverse
      have different : key ≠ id := fun same => UInt32.lt_irrefl id (same ▸ below)
      rw [insertRow, if_neg notBelow, if_neg different]

/-- The rows of a catalogue make up the catalogue. -/
theorem ofList_rows (catalogue : Catalogue value) : ofList catalogue.rows = catalogue := by
  obtain ⟨rows, ascending⟩ := catalogue
  induction rows with
  | nil => rfl
  | cons head rest induction =>
      obtain ⟨above, sorted⟩ := List.pairwise_cons.mp ascending
      have tail : ofList rest = ⟨rest, sorted⟩ := induction sorted
      have absent : (⟨rest, sorted⟩ : Catalogue value).contains head.1 = false := by
        rw [contains, find?, lookupRow_of_lt above]
        rfl
      have unfolded : ofList (head :: rest) =
          if (ofList rest).contains head.1 then ofList rest
          else (ofList rest).insert head.1 head.2 := rfl
      rw [unfolded, tail, absent]
      simp [insert, insertRow_of_lt above]

/-- There are not more rows than numbers to file under. -/
theorem size_le (catalogue : Catalogue value) : catalogue.size ≤ UInt32.size := by
  have distinct : (catalogue.rows.map fun row => row.1.toBitVec.toFin).Nodup := by
    refine List.pairwise_map.mpr (catalogue.ascending.imp fun {earlier later} below same => ?_)
    have equal : earlier.1 = later.1 :=
      UInt32.toBitVec_inj.mp (BitVec.toFin_inj.mp same)
    exact UInt32.lt_irrefl later.1 (equal ▸ below)
  simpa [size] using distinct.length_le_card

end Catalogue

namespace Wire

theorem survives_catalogue {value : Type} [Wire value] {catalogue : Catalogue value}
    (survive : ∀ row ∈ catalogue.rows, Survives row.2) : Survives catalogue := by
  intro rest
  have rowsSurvive : ∀ row ∈ catalogue.rows, Survives row := fun row member =>
    survives_pair (survives_uint32 row.1) (survive row member)
  have fits : catalogue.rows.length < UInt64.size :=
    Nat.lt_of_le_of_lt catalogue.size_le (by decide)
  change (do
    let count ← readLength
    pure (.ofList (← Reader.replicate count (read : Reader (AuctionId × value)))) :
      Reader (Catalogue value))
    (writeNatural catalogue.rows.length ++ catalogue.rows.flatMap write ++ rest) = _
  rw [List.append_assoc, Reader.bind_of_ok (readLength_writeNatural fits _),
    Reader.bind_of_ok (replicate_flatMap rowsSurvive rest), Reader.pure_apply,
    Catalogue.ofList_rows]

/-- A state arrives as it was handed over. -/
theorem survives_snapshot {snapshot : Snapshot} (storable : snapshot.Storable) :
    Survives snapshot := by
  intro rest
  have auctionsSurvive : Survives snapshot.auctions :=
    survives_catalogue fun row member => survives_auction (storable row member)
  change (do pure { nextId := ← read, auctions := ← read, fingerprint := ← read } :
      Reader Snapshot)
    (write snapshot.nextId ++ write snapshot.auctions ++ write snapshot.fingerprint ++ rest) = _
  simp only [List.append_assoc]
  rw [(survives_uint32 _).bind, auctionsSurvive.bind, (survives_int64 _).bind]
  rfl

end Wire

end AuctionHouse
