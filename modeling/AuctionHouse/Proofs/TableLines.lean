import AuctionHouse.Proofs.TableSize

/-!
# The lines of the table

The texts of an auction are written into its row as they are.  So a row is one line if there are no
line feeds in them, and each line feed makes one line more, which may look like the row of another
auction.  No row is ever lost: its first line begins with its number whatever the texts are.
-/

namespace AuctionHouse

/-! ## Lines of texts -/

namespace Text

section Lines

variable {symbol : Type} [DecidableEq symbol] {feed : symbol}

theorem length_splitOn (source : List symbol) :
    (source.splitOn feed).length = source.count feed + 1 := by
  induction source with
  | nil => simp
  | cons head rest induction =>
      rw [List.splitOn_cons_eq_if_modifyHead, List.count_cons]
      split
      · rw [List.length_cons, induction]
      · rw [List.length_modifyHead, induction]

/-- What comes before the first line feed stays at the head. -/
theorem splitOn_append_of_notMem {start : List symbol} (plain : feed ∉ start)
    (rest : List symbol) :
    (start ++ rest).splitOn feed = (rest.splitOn feed).modifyHead (start ++ ·) := by
  induction start with
  | nil =>
      rw [List.nil_append]
      cases rest.splitOn feed with
      | nil => rfl
      | cons first others => rfl
  | cons head start induction =>
      obtain ⟨other, plain⟩ := not_or.mp (mt List.mem_cons.mpr plain)
      rw [List.cons_append, List.splitOn_cons_eq_if_modifyHead, induction plain]
      rw [if_neg fun same => other (beq_iff_eq.mp same).symm, List.modifyHead_modifyHead]
      rfl

/-- The parts are put together again by line feeds. -/
theorem flatMap_splitOn (source : List symbol) :
    (source.splitOn feed).flatMap (· ++ [feed]) = source ++ [feed] := by
  have between (parts : List (List symbol)) (some : parts ≠ []) :
      parts.flatMap (· ++ [feed]) = [feed].intercalate parts ++ [feed] := by
    induction parts with
    | nil => exact absurd rfl some
    | cons part rest induction =>
        cases rest with
        | nil => simp
        | cons next others =>
            rw [List.flatMap_cons, induction (List.cons_ne_nil _ _), List.intercalate_cons_cons]
            simp only [List.append_assoc]
  rw [between _ (List.splitOn_ne_nil feed source), List.intercalate_splitOn]

end Lines

/-- Texts that are each ended by a line feed. -/
theorem lines_join (texts : List String) :
    lines '\n' (String.join (texts.map (· ++ "\n"))).toList =
      texts.flatMap fun text => text.toList.splitOn '\n' := by
  induction texts with
  | nil => rfl
  | cons text rest induction =>
      have first : (String.join ((text :: rest).map (· ++ "\n"))).toList =
          text.toList ++ '\n' :: (String.join (rest.map (· ++ "\n"))).toList := by
        simp [String.toList_join]
      rw [first, lines_append_feed, induction, List.flatMap_cons]

/-- How many line feeds there are in a text. -/
def feeds (text : String) : Nat := text.toList.count '\n'

@[simp]
theorem feeds_append (left right : String) : feeds (left ++ right) = feeds left + feeds right := by
  rw [feeds, String.toList_append, List.count_append, feeds, feeds]

/-- Blanks are no line feeds. -/
@[simp]
theorem feeds_leftAligned (width : Nat) (text : String) :
    feeds (leftAligned width text) = feeds text := by
  rw [feeds, toList_leftAligned, List.count_append, List.count_replicate, feeds]
  rfl

theorem feeds_eq_zero_iff {text : String} : feeds text = 0 ↔ '\n' ∉ text.toList :=
  List.count_eq_zero

theorem isDigit_of_mem_toDigits {character : Char} {number : Nat}
    (member : character ∈ Nat.toDigits 10 number) : character.isDigit = true :=
  Nat.isDigit_of_mem_toDigits (by decide) (by decide) member

theorem not_mem_toDigits {character : Char} (other : ¬character.isDigit = true) (number : Nat) :
    character ∉ Nat.toDigits 10 number :=
  fun member => other (isDigit_of_mem_toDigits member)

theorem digitsValue_toDigits (number : Nat) : digitsValue (Nat.toDigits 10 number) = number :=
  Nat.ofDigitChars_ten_toDigits

/-- The digits of a number are read back. -/
theorem readNatural?_toDigits {limit number : Nat} (small : number ≤ limit) :
    readNatural? limit (Nat.toDigits 10 number) = some number := by
  have digits : (Nat.toDigits 10 number).all Char.isDigit = true :=
    List.all_eq_true.mpr fun _ => isDigit_of_mem_toDigits
  have some : Nat.toDigits 10 number ≠ [] := Nat.toDigits_ne_nil
  rw [readNatural?, digitsValue_toDigits, if_pos ⟨some, digits, small⟩]
  -- There is no sign to be passed over.
  intro rest signed
  rw [signed] at digits
  contradiction

end Text

/-- Point notation has digits and a point. -/
theorem Decimal.mem_positional {keepsPoint : Bool} {decimal : Decimal} {character : Char}
    (member : character ∈ (decimal.positional keepsPoint).toList) :
    character.isDigit = true ∨ character = '.' := by
  have zero {count : Nat} (inside : character ∈ List.replicate count '0') :
      character.isDigit = true := by
    rw [List.eq_of_mem_replicate inside]
    rfl
  simp only [positional] at member
  split at member
  · rw [String.toList_append, String.toList_ofList, List.mem_append, List.mem_append] at member
    rcases member with (inside | inside) | point
    · exact .inl (Text.isDigit_of_mem_toDigits inside)
    · exact .inl (zero inside)
    · split at point
      · rcases List.mem_pair.mp point with rfl | rfl
        · exact .inr rfl
        · exact .inl rfl
      · contradiction
  · have padded {number : Nat} {count : Nat}
        (inside : character ∈ List.replicate count '0' ++ Nat.toDigits 10 number) :
        character.isDigit = true :=
      (List.mem_append.mp inside).elim zero Text.isDigit_of_mem_toDigits
    rw [String.toList_ofList, List.mem_append, List.mem_cons] at member
    rcases member with whole | point | places
    · exact .inl (padded (List.mem_of_mem_take whole))
    · exact .inr point
    · exact .inl (padded (List.mem_of_mem_drop places))

theorem Price.feeds_withTwoPlaces (price : Price) : Text.feeds price.withTwoPlaces = 0 := by
  have sign : Text.feeds price.signText = 0 := by
    rw [signText]
    split
    · rfl
    · rfl
  have number (decimal : Decimal) : Text.feeds (decimal.positional false) = 0 := by
    refine Text.feeds_eq_zero_iff.mpr fun member => ?_
    rcases Decimal.mem_positional member with digit | point
    · contradiction
    · contradiction
  rw [withTwoPlaces, signed]
  split
  · rfl
  · rw [Text.feeds_append, sign]
    split
    · rfl
    · rw [number]

/-- How many line feeds there are in the two texts of an auction that a table shows. -/
def Auction.feeds (auction : Auction) : Nat :=
  Text.feeds auction.bidderName + Text.feeds auction.description

namespace Listing

/-! ## Rows -/

theorem feeds_auctionRow (id : AuctionId) (auction : Auction) :
    Text.feeds (auctionRow id auction) = auction.feeds := by
  have number : Text.feeds (toString id.toNat) = 0 := by
    rw [Text.feeds_eq_zero_iff, Nat.toString_eq_ofList_toDigits, String.toList_ofList]
    exact Text.not_mem_toDigits (by decide) _
  have bar : Text.feeds "|" = 0 := rfl
  simp only [auctionRow, row, Text.feeds_append, Text.feeds_leftAligned, number, bar,
    auction.currentPrice.feeds_withTwoPlaces, Auction.feeds, Nat.zero_add, Nat.add_zero]

/-- The number at the beginning of a line. -/
def number? (line : List Char) : Option Nat :=
  match line with
  | '|' :: rest => Text.readNatural? (UInt32.size - 1) (rest.takeWhile Char.isDigit)
  | _ => none

/-- What a reader takes for the numbers of the auctions: one for each line between the line below
the header and the last one. -/
def numbers (table : String) : List (Option Nat) :=
  (((Text.lines '\n' table.toList).drop 3).dropLast).map number?

/-- The beginning of a row, up to the bar after the number. -/
def lead (id : AuctionId) : List Char :=
  '|' :: ((Text.leftAligned 10 (toString id.toNat)).toList ++ ['|'])

/-- The digits of a number end where its column is filled up or ends. -/
theorem number?_lead_append (id : AuctionId) (rest : List Char) :
    number? (lead id ++ rest) = some id.toNat := by
  have ended (blanks : Nat) :
      (List.replicate blanks ' ' ++ '|' :: rest).takeWhile Char.isDigit = [] := by
    cases blanks with
    | zero => rfl
    | succ blanks => rfl
  have small : id.toNat ≤ UInt32.size - 1 := Nat.le_pred_of_lt id.toNat_lt_size
  have begins : lead id ++ rest = '|' :: (Nat.toDigits 10 id.toNat ++
      (List.replicate (10 - (toString id.toNat).length) ' ' ++ '|' :: rest)) := by
    simp [lead, Text.toList_leftAligned]
  rw [begins]
  simp only [number?, List.takeWhile_append_of_pos fun _ => Text.isDigit_of_mem_toDigits, ended,
    List.append_nil]
  exact Text.readNatural?_toDigits small

/-- The lines that the row of an auction takes up. -/
def rowLines (entry : AuctionId × Auction) : List (List Char) :=
  (auctionRow entry.1 entry.2).toList.splitOn '\n'

theorem length_rowLines (entry : AuctionId × Auction) :
    (rowLines entry).length = entry.2.feeds + 1 := by
  rw [rowLines, Text.length_splitOn, ← feeds_auctionRow entry.1]
  rfl

theorem rowLines_of_feeds {entry : AuctionId × Auction} (plain : entry.2.feeds = 0) :
    rowLines entry = [(auctionRow entry.1 entry.2).toList] := by
  rw [← feeds_auctionRow entry.1] at plain
  exact List.splitOn_eq_singleton (Text.feeds_eq_zero_iff.mp plain)

/-- The first line begins with the number, whatever the texts are. -/
theorem rowLines_eq_cons (entry : AuctionId × Auction) :
    ∃ rest others, rowLines entry = (lead entry.1 ++ rest) :: others := by
  obtain ⟨rest, begins⟩ :
      ∃ rest, (auctionRow entry.1 entry.2).toList = lead entry.1 ++ rest := by
    simp [auctionRow, row, lead]
  have number : '\n' ∉ lead entry.1 := by
    simp [lead, Text.toList_leftAligned, Text.not_mem_toDigits]
  obtain ⟨first, others, parts⟩ := List.exists_cons_of_ne_nil (List.splitOn_ne_nil '\n' rest)
  refine ⟨first, others, ?_⟩
  rw [rowLines, begins, Text.splitOn_append_of_notMem number, parts]
  rfl

/-! ## Tables -/

variable {auctions : List (AuctionId × Auction)}

theorem lines_text (listed : auctions ≠ []) :
    Text.lines '\n' (text auctions).toList =
      [rule.toList, header.toList, rule.toList] ++ auctions.flatMap rowLines ++ [rule.toList] := by
  have one (line : String) (plain : Text.feeds line = 0) :
      line.toList.splitOn '\n' = [line.toList] :=
    List.splitOn_eq_singleton (Text.feeds_eq_zero_iff.mp plain)
  rw [text, if_neg (by simpa using listed), Text.lines_join, tableLines]
  simp only [List.flatMap_append, List.flatMap_cons, List.flatMap_nil, List.flatMap_map,
    one rule (by decide +kernel), one header (by decide +kernel)]
  rfl

theorem text_eq_flatMap_lines (listed : auctions ≠ []) :
    (text auctions).toList = (Text.lines '\n' (text auctions).toList).flatMap (· ++ ['\n']) := by
  rw [text, if_neg (by simpa using listed), Text.lines_join, List.flatMap_assoc]
  simp [Text.flatMap_splitOn, String.toList_join, List.flatMap_map]

theorem length_flatMap_rowLines (auctions : List (AuctionId × Auction)) :
    (auctions.flatMap rowLines).length =
      auctions.length + (auctions.map fun entry => entry.2.feeds).sum := by
  induction auctions with
  | nil => rfl
  | cons entry rest induction =>
      rw [List.flatMap_cons, List.length_append, length_rowLines, induction, List.length_cons,
        List.map_cons, List.sum_cons]
      omega

theorem numbers_text (listed : auctions ≠ []) :
    numbers (text auctions) = (auctions.flatMap rowLines).map number? := by
  rw [numbers, lines_text listed]
  simp

/-- Every number is where a reader looks for it. -/
theorem sublist_flatMap_rowLines (auctions : List (AuctionId × Auction)) :
    (auctions.map fun entry => some entry.1.toNat).Sublist
      ((auctions.flatMap rowLines).map number?) := by
  induction auctions with
  | nil => exact List.nil_sublist _
  | cons entry rest induction =>
      obtain ⟨more, others, parts⟩ := rowLines_eq_cons entry
      rw [List.map_cons, List.flatMap_cons, parts, List.cons_append, List.map_cons,
        number?_lead_append, List.map_append]
      exact .cons_cons _ (induction.trans (List.sublist_append_right _ _))

/-- There are no other numbers just if no text breaks its line. -/
theorem map_number?_eq_iff (auctions : List (AuctionId × Auction)) :
    (auctions.flatMap rowLines).map number? = auctions.map (fun entry => some entry.1.toNat) ↔
      ∀ entry ∈ auctions, entry.2.feeds = 0 := by
  have count := length_flatMap_rowLines auctions
  have found := sublist_flatMap_rowLines auctions
  constructor
  · intro same
    have whole := congrArg List.length same
    rw [List.length_map, List.length_map, count] at whole
    have none : (auctions.map fun entry => entry.2.feeds).sum = 0 := by omega
    exact fun entry member =>
      List.sum_eq_zero_iff_forall_eq_nat.mp none _ (List.mem_map_of_mem member)
  · intro plain
    have none : (auctions.map fun entry => entry.2.feeds).sum = 0 :=
      List.sum_eq_zero_iff_forall_eq_nat.mpr (List.forall_mem_map.mpr plain)
    refine (found.eq_of_length ?_).symm
    rw [List.length_map, List.length_map, count, none, Nat.add_zero]

end Listing

namespace Replica

variable {replica : Replica}

theorem listed_of_live (live : 1 ≤ replica.size) : replica.auctions.rows ≠ [] :=
  List.ne_nil_of_length_pos live

theorem length_lines_listings (live : 1 ≤ replica.size) :
    (Text.lines '\n' replica.listings.toList).length =
      replica.size + 4 + (replica.auctions.rows.map fun row => row.2.feeds).sum := by
  have auctions : replica.size = replica.auctions.rows.length := rfl
  rw [listings, Listing.lines_text (listed_of_live live), List.length_append, List.length_append,
    Listing.length_flatMap_rowLines, auctions]
  simp only [List.length_cons, List.length_nil]
  omega

theorem numbers_listings (live : 1 ≤ replica.size) :
    Listing.numbers replica.listings =
      (replica.auctions.rows.flatMap Listing.rowLines).map Listing.number? :=
  Listing.numbers_text (listed_of_live live)

/-- The table of at least one auction has a frame of four lines and a line for each auction, and one
more for each line feed in the texts.  The numbers of the auctions are at the beginnings of their
first lines in ascending order, and no others are read there just if no text has a line feed. -/
theorem lines_of_listings (replica : Replica) (live : 1 ≤ replica.size) :
    let rows := replica.auctions.rows
    let lines := Text.lines '\n' replica.listings.toList
    replica.listings.toList = lines.flatMap (· ++ ['\n']) ∧
      lines = [Listing.rule.toList, Listing.header.toList, Listing.rule.toList] ++
        rows.flatMap Listing.rowLines ++ [Listing.rule.toList] ∧
      lines.length = replica.size + 4 + (rows.map fun row => row.2.feeds).sum ∧
      (rows.map Prod.fst).Pairwise (· < ·) ∧
      (∀ id, id ∈ rows.map Prod.fst ↔ replica.auctions.contains id = true) ∧
      (∀ row ∈ rows,
        (∃ rest others, Listing.rowLines row = (Listing.lead row.1 ++ rest) :: others) ∧
          (row.2.feeds = 0 →
            Listing.rowLines row = [(Listing.auctionRow row.1 row.2).toList])) ∧
      (rows.map fun row => some row.1.toNat).Sublist (Listing.numbers replica.listings) ∧
      (Listing.numbers replica.listings = rows.map (fun row => some row.1.toNat) ↔
        ∀ row ∈ rows, row.2.feeds = 0) := by
  intro rows lines
  have listed : rows ≠ [] := listed_of_live live
  refine ⟨Listing.text_eq_flatMap_lines listed, Listing.lines_text listed,
    length_lines_listings live, List.pairwise_map.mpr replica.auctions.ascending, fun id => ?_,
    fun row _ => ⟨Listing.rowLines_eq_cons row, Listing.rowLines_of_feeds⟩, ?_, ?_⟩
  · rw [Catalogue.contains, Option.isSome_iff_exists]
    simp [rows, Catalogue.find?_eq_some_iff]
  · rw [numbers_listings live]
    exact Listing.sublist_flatMap_rowLines _
  · rw [numbers_listings live]
    exact Listing.map_number?_eq_iff _

/-- A replica with one auction, whose description goes on as the row of another one. -/
def forged : Replica :=
  ((fresh 1000 5000).add
    (.unbid "Ann" ⟨0⟩ "Lamp\n|1001      |1.00       |***No one***|Rug" ⟨0⟩)).2

theorem lines_of_listings_forged :
    1 ≤ forged.size ∧ (Text.lines '\n' forged.listings.toList).length = 6 ∧
      (forged.auctions.rows.map fun row => some row.1.toNat).Sublist
        (Listing.numbers forged.listings) ∧
      Listing.numbers forged.listings = [some 1000, some 1001] ∧
      forged.auctions.contains 1001 = false := by
  have live : 1 ≤ forged.size := by decide +kernel
  obtain ⟨-, -, count, -, -, -, found, -⟩ := forged.lines_of_listings live
  refine ⟨live, count.trans (by decide +kernel), found, ?_, by decide +kernel⟩
  rw [numbers_listings live]
  decide +kernel

/-- There need not be as many lines as the auctions and the frame have. -/
theorem not_lines_of_listings :
    ¬∀ replica : Replica, 1 ≤ replica.size →
      (Text.lines '\n' replica.listings.toList).length = replica.size + 4 := by
  intro always
  have live : 1 ≤ forged.size := by decide +kernel
  have lines := always forged live
  have one : (forged.auctions.rows.map fun row => row.2.feeds).sum = 1 := by decide +kernel
  rw [length_lines_listings live, one] at lines
  omega

end Replica

end AuctionHouse
