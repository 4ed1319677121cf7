import Mathlib.Data.List.Forall2
import Mathlib.Data.List.ReduceOption
import AuctionHouse.Replica.Seed

/-!
# The lines of a seed file

Every line of a seed file is blank, or it is a row, or there is one reason why it cannot be read.
`Seed.Reads` and `Seed.Fails` say which, and reading a file is told by them line by line: the rows
are those of its lines, and what is reported is the first line that cannot be read.
-/

namespace AuctionHouse

/-! ## Bytes that are text -/

namespace Text

theorem ofUtf8_eq_ok_iff {bytes : List UInt8} {text : String} :
    ofUtf8 bytes = .ok text ↔ utf8Bytes text = bytes := by
  constructor
  · intro read
    rw [ofUtf8] at read
    split at read
    · rename_i found isText
      obtain rfl := Except.ok.inj read
      rw [String.fromUTF8?] at isText
      split at isText
      · obtain rfl := Option.some.inj isText
        rfl
      · simp at isText
    · simp at read
  · rintro rfl
    exact ofUtf8_utf8Bytes text

theorem exists_fault_iff {bytes : List UInt8} :
    (∃ fault, ofUtf8 bytes = .error fault) ↔ ∀ text, utf8Bytes text ≠ bytes := by
  constructor
  · rintro ⟨fault, unread⟩ text written
    rw [ofUtf8_eq_ok_iff.mpr written] at unread
    simp at unread
  · intro unwritten
    cases read : ofUtf8 bytes with
    | ok text => exact absurd (ofUtf8_eq_ok_iff.mp read) (unwritten text)
    | error fault => exact ⟨fault, rfl⟩

/-- What comes after a line feed has its own lines. -/
theorem lines_append_feed {symbol : Type} [DecidableEq symbol] {feed : symbol}
    (line rest : List symbol) :
    lines feed (line ++ feed :: rest) = line.splitOn feed ++ lines feed rest := by
  have some : rest.splitOn feed ≠ [] := List.splitOn_ne_nil feed rest
  have last : (line.splitOn feed ++ rest.splitOn feed).getLast? = (rest.splitOn feed).getLast? := by
    rw [List.getLast?_append_of_ne_nil _ some]
  simp only [lines, List.splitOn_append_cons_self, last]
  split
  · rw [List.dropLast_append_of_ne_nil some]
  · rfl

end Text

/-! ## Lines that can be read -/

namespace Seed

/-- What stands in a line that can be read: nothing, or an auction in three fields. -/
inductive Reads : List UInt8 → Option Auction → Prop
  | nothing {text : String} (blank : Text.isBlankText text.toList = true) :
      Reads (Text.utf8Bytes text) none
  | row {text : String} {first second third : List Char} {startPrice reservePrice : Price}
      (filled : Text.isBlankText text.toList = false)
      (fields : text.toList.splitOn ',' = [first, second, third])
      (start : Price.read? (Text.trim first) = some startPrice)
      (reserve : Price.read? (Text.trim third) = some reservePrice) :
      Reads (Text.utf8Bytes text)
        (some (.unbid owner startPrice (String.ofList (Text.trim second)) reservePrice))

/-- Why a line cannot be read. -/
inductive Fails (number : Nat) : List UInt8 → SeedFault → Prop
  | notText {line : List UInt8} (unwritten : ∀ text, Text.utf8Bytes text ≠ line) :
      Fails number line .notText
  | fieldCount {text : String} (filled : Text.isBlankText text.toList = false)
      (fields : (text.toList.splitOn ',').length ≠ 3) :
      Fails number (Text.utf8Bytes text) (.badRow number .fieldCount)
  | startPrice {text : String} {first second third : List Char}
      (filled : Text.isBlankText text.toList = false)
      (fields : text.toList.splitOn ',' = [first, second, third])
      (start : Price.read? (Text.trim first) = none) :
      Fails number (Text.utf8Bytes text) (.badRow number .startPrice)
  | minPrice {text : String} {first second third : List Char} {startPrice : Price}
      (filled : Text.isBlankText text.toList = false)
      (fields : text.toList.splitOn ',' = [first, second, third])
      (start : Price.read? (Text.trim first) = some startPrice)
      (reserve : Price.read? (Text.trim third) = none) :
      Fails number (Text.utf8Bytes text) (.badRow number .minPrice)

variable {number : Nat} {line : List UInt8} {rest : List (List UInt8)} {fault : SeedFault}

/-- A line can be read, or there is a reason why it cannot. -/
theorem reads_or_fails (number : Nat) (line : List UInt8) :
    (∃ content, Reads line content) ∨ ∃ fault, Fails number line fault := by
  cases read : Text.ofUtf8 line with
  | error unread => exact .inr ⟨_, .notText (Text.exists_fault_iff.mp ⟨unread, read⟩)⟩
  | ok text =>
      obtain rfl := Text.ofUtf8_eq_ok_iff.mp read
      cases filled : Text.isBlankText text.toList with
      | true => exact .inl ⟨_, .nothing filled⟩
      | false =>
          by_cases three : (text.toList.splitOn ',').length = 3
          · obtain ⟨first, second, third, fields⟩ := List.length_eq_three.mp three
            cases start : Price.read? (Text.trim first) with
            | none => exact .inr ⟨_, .startPrice filled fields start⟩
            | some startPrice =>
                cases reserve : Price.read? (Text.trim third) with
                | none => exact .inr ⟨_, .minPrice filled fields start reserve⟩
                | some reservePrice => exact .inl ⟨_, .row filled fields start reserve⟩
          · exact .inr ⟨_, .fieldCount filled three⟩

theorem readRow_eq {text first second third : List Char}
    (fields : text.splitOn ',' = [first, second, third]) :
    readRow text =
      match Price.read? (Text.trim first), Price.read? (Text.trim third) with
      | none, _ => .error .startPrice
      | some _, none => .error .minPrice
      | some startPrice, some reservePrice =>
        .ok (.unbid owner startPrice (String.ofList (Text.trim second)) reservePrice) := by
  rw [readRow, fields]
  rfl

theorem readRow_of_length_ne {text : List Char} (fields : (text.splitOn ',').length ≠ 3) :
    readRow text = .error .fieldCount := by
  rw [readRow]
  split
  · rename_i three
    have count := congrArg List.length three
    rw [List.length_map] at count
    exact absurd count fields
  · rfl

theorem readLines_cons_of_filled {text : String}
    (filled : Text.isBlankText text.toList = false) :
    readLines number (Text.utf8Bytes text :: rest) =
      match readRow text.toList with
      | .error fault => .error (.badRow number fault)
      | .ok auction => (readLines (number + 1) rest).map (auction :: ·) := by
  rw [readLines, Text.ofUtf8_utf8Bytes]
  exact if_neg (Bool.eq_false_iff.mp filled)

theorem readLines_cons_of_reads {content : Option Auction} (reads : Reads line content) :
    readLines number (line :: rest) =
      (readLines (number + 1) rest).map (content.toList ++ ·) := by
  cases reads with
  | nothing blank =>
      rw [readLines, Text.ofUtf8_utf8Bytes]
      simp only [blank, if_true]
      cases readLines (number + 1) rest with
      | ok rows => rfl
      | error fault => rfl
  | row filled fields start reserve =>
      rw [readLines_cons_of_filled filled, readRow_eq fields, start, reserve]
      rfl

theorem readLines_cons_of_fails (fails : Fails number line fault) :
    readLines number (line :: rest) = .error fault := by
  cases fails with
  | notText unwritten =>
      obtain ⟨fault, unread⟩ := Text.exists_fault_iff.mpr unwritten
      rw [readLines, unread]
  | fieldCount filled fields =>
      rw [readLines_cons_of_filled filled, readRow_of_length_ne fields]
  | startPrice filled fields start =>
      rw [readLines_cons_of_filled filled, readRow_eq fields, start]
  | minPrice filled fields start reserve =>
      rw [readLines_cons_of_filled filled, readRow_eq fields, start, reserve]

/-- No line that can be read has a reason why it cannot. -/
theorem Reads.not_fails {content : Option Auction} (reads : Reads line content) :
    ¬Fails number line fault := by
  intro fails
  have one : readLines number [line] = .ok (content.toList ++ []) := readLines_cons_of_reads reads
  rw [readLines_cons_of_fails fails] at one
  contradiction

/-! ## Files -/

variable {lines : List (List UInt8)} {auctions : List Auction}

/-- The rows of a file in which all lines can be read. -/
theorem readLines_eq_ok_iff :
    readLines number lines = .ok auctions ↔
      ∃ contents, List.Forall₂ Reads lines contents ∧ contents.reduceOption = auctions := by
  induction lines generalizing number auctions with
  | nil => simp [readLines, eq_comm]
  | cons line rest induction =>
      constructor
      · intro read
        rcases reads_or_fails number line with ⟨content, reads⟩ | ⟨fault, fails⟩
        · rw [readLines_cons_of_reads reads] at read
          cases later : readLines (number + 1) rest with
          | error fault => simp [later, Except.map] at read
          | ok rows =>
              rw [later] at read
              obtain ⟨contents, others, rfl⟩ := induction.mp later
              obtain rfl := Except.ok.inj read
              exact ⟨content :: contents, .cons reads others, by cases content <;> rfl⟩
        · rw [readLines_cons_of_fails fails] at read
          contradiction
      · rintro ⟨contents, every, rfl⟩
        cases every with
        | @cons _ content _ contents reads others =>
            rw [readLines_cons_of_reads reads, induction.mpr ⟨contents, others, rfl⟩]
            cases content <;> rfl

theorem readLines_of_fails {before later : List (List UInt8)}
    (sound : ∀ earlier ∈ before, ∃ content, Reads earlier content)
    (fails : Fails (number + before.length) line fault) :
    readLines number (before ++ line :: later) = .error fault := by
  induction before generalizing number with
  | nil => exact readLines_cons_of_fails fails
  | cons first before induction =>
      obtain ⟨⟨content, reads⟩, others⟩ := List.forall_mem_cons.mp sound
      rw [List.length_cons, Nat.add_comm before.length, ← Nat.add_assoc] at fails
      rw [List.cons_append, readLines_cons_of_reads reads, induction others fails]
      rfl

theorem exists_fails_of_error (read : readLines number lines = .error fault) :
    ∃ before line later, lines = before ++ line :: later ∧
      (∀ earlier ∈ before, ∃ content, Reads earlier content) ∧
      Fails (number + before.length) line fault := by
  induction lines generalizing number with
  | nil => simp [readLines] at read
  | cons line rest induction =>
      rcases reads_or_fails number line with ⟨content, reads⟩ | ⟨cause, fails⟩
      · have unread : readLines (number + 1) rest = .error fault := by
          rw [readLines_cons_of_reads reads] at read
          cases later : readLines (number + 1) rest with
          | ok rows => simp [later, Except.map] at read
          | error cause =>
              rw [later] at read
              exact read
        obtain ⟨before, bad, later, rfl, sound, fails⟩ := induction unread
        refine ⟨line :: before, bad, later, rfl, ?_, ?_⟩
        · exact List.forall_mem_cons.mpr ⟨⟨content, reads⟩, sound⟩
        · rw [List.length_cons, Nat.add_comm before.length, ← Nat.add_assoc]
          exact fails
      · rw [readLines_cons_of_fails fails] at read
        obtain rfl := Except.error.inj read
        exact ⟨[], line, rest, rfl, by simp, fails⟩

/-- The first line that cannot be read is what is reported. -/
theorem readLines_eq_error_iff :
    readLines number lines = .error fault ↔
      ∃ before line later, lines = before ++ line :: later ∧
        (∀ earlier ∈ before, ∃ content, Reads earlier content) ∧
        Fails (number + before.length) line fault := by
  refine ⟨exists_fails_of_error, ?_⟩
  rintro ⟨before, line, later, rfl, sound, fails⟩
  exact readLines_of_fails sound fails

/-- One line that cannot be read is enough. -/
theorem exists_readLines_eq_error_iff (number : Nat) :
    (∃ fault, readLines number lines = .error fault) ↔
      ∃ line ∈ lines, ∃ place fault, Fails place line fault := by
  constructor
  · rintro ⟨fault, unread⟩
    obtain ⟨before, line, later, split, -, fails⟩ := exists_fails_of_error unread
    exact ⟨line, by simp [split], _, fault, fails⟩
  · rintro ⟨line, inside, place, fault, fails⟩
    cases read : readLines number lines with
    | error cause => exact ⟨cause, rfl⟩
    | ok rows =>
        obtain ⟨contents, every, -⟩ := readLines_eq_ok_iff.mp read
        obtain ⟨⟨index, within⟩, rfl⟩ := List.mem_iff_get.mp inside
        have reads := (List.forall₂_iff_get.mp every).2 index within (every.length_eq ▸ within)
        exact absurd fails reads.not_fails

/-- Every row stands in some line. -/
theorem exists_reads_of_mem (read : readLines number lines = .ok auctions) {auction : Auction}
    (member : auction ∈ auctions) : ∃ line ∈ lines, Reads line (some auction) := by
  obtain ⟨contents, every, rfl⟩ := readLines_eq_ok_iff.mp read
  obtain ⟨⟨place, within⟩, same⟩ := List.mem_iff_get.mp (List.reduceOption_mem_iff.mp member)
  obtain ⟨count, reads⟩ := List.forall₂_iff_get.mp every
  have stands := reads place (count ▸ within) within
  rw [same] at stands
  exact ⟨_, List.get_mem _ _, stands⟩

end Seed

end AuctionHouse
