import AuctionHouse.Proofs.Sowing

/-!
# A seed file is entered as a whole or not at all

All lines are read before anything is entered.  So a file with a line that cannot be read changes
nothing, and the first such line is the one that is reported; its number counts all lines, blank
ones included.  Otherwise the rows are filed under the numbers from zero on, which count rows alone.
There must be a number left when all of them are filed: with a row for each number but the greatest
the rows are filed, and then counting fails.
-/

namespace AuctionHouse

/-! ## The rows of a file -/

namespace Seed

variable {lines : List (List UInt8)}

/-- Whether there is nothing but blanks in a line. -/
def isBlankLine (line : List UInt8) : Bool :=
  (Text.ofUtf8 line).toOption.any fun text => Text.isBlankText text.toList

theorem Reads.isBlankLine_eq {line : List UInt8} {content : Option Auction}
    (reads : Reads line content) :
    isBlankLine line = content.isNone := by
  cases reads with
  | nothing blank =>
      rw [isBlankLine, Text.ofUtf8_utf8Bytes]
      exact blank
  | row filled fields start reserve =>
      rw [isBlankLine, Text.ofUtf8_utf8Bytes]
      exact filled

/-- There are as many rows as there are lines that are not blank. -/
theorem length_reduceOption_of_reads {contents : List (Option Auction)}
    (read : List.Forall₂ Reads lines contents) :
    contents.reduceOption.length = lines.countP fun line => !isBlankLine line := by
  induction read with
  | nil => rfl
  | @cons line content lines contents reads _ induction =>
      rw [List.countP_cons, reads.isBlankLine_eq, ← induction]
      cases content with
      | none => rfl
      | some auction => rfl

/-- Every row that has a number can be accounted for under it. -/
def Weighed (rows : List Auction) : Prop :=
  ∀ (id : AuctionId) (inside : id.toNat < rows.length),
    (Change.insert id rows[id.toNat]).weight? ≠ none

/-- All rows can be entered: a number is left when they have all got one, and each of them can be
accounted for under its own. -/
structure Accountable (rows : List Auction) : Prop where
  /-- The greatest number and the one before it are not needed. -/
  counted : rows.length + 1 < UInt32.size
  /-- No row weighs too much. -/
  weighed : Weighed rows

end Seed

/-! ## Entering the rows -/

namespace Replica

variable {replica : Replica} {start : Nat} {auctions : List Auction}

theorem enter_ofNat_cons {auction : Auction} {rest : List Auction}
    (entered : (replica.enter (.ofNat start) (auction :: rest)).1 = .ok ()) :
    replica.enter (.ofNat start) (auction :: rest) =
      enter { replica with
        auctions := replica.auctions.insert (.ofNat start) auction
        fingerprint :=
          replica.fingerprint + .ofInt (Change.insert (.ofNat start) auction).weight }
        (.ofNat (start + 1)) rest := by
  have next : (.ofNat start : AuctionId) + 1 = .ofNat (start + 1) :=
    (UInt32.ofNat_add start 1).symm
  rw [enter_cons_of_ok entered, next]

/-- The rows are filed from a number on, one after the other, and everything else is as before. -/
theorem find?_enter (entered : (replica.enter (.ofNat start) auctions).1 = .ok ())
    (room : start + auctions.length + 1 < UInt32.size) (id : AuctionId) :
    (replica.enter (.ofNat start) auctions).2.auctions.find? id =
      if start ≤ id.toNat then
        (auctions[id.toNat - start]?).or (replica.auctions.find? id)
      else replica.auctions.find? id := by
  induction auctions generalizing replica start with
  | nil =>
      rw [List.length_nil] at room
      have number : (UInt32.ofNat start).toNat = start := UInt32.toNat_ofNat_of_lt' (by omega)
      rw [enter_nil (by omega)]
      simp
  | cons auction rest induction =>
      rw [List.length_cons] at room
      have number : (UInt32.ofNat start).toNat = start := UInt32.toNat_ofNat_of_lt' (by omega)
      have onward := enter_ofNat_cons entered
      rw [onward] at entered ⊢
      rw [induction entered (by omega), Catalogue.find?_insert]
      rcases Nat.lt_trichotomy id.toNat start with before | here | behind
      · have other : id ≠ .ofNat start := by
          rintro rfl
          omega
        rw [if_neg (by omega), if_neg other, if_neg (by omega)]
      · have same : id = .ofNat start := UInt32.toNat_inj.mp (by omega)
        rw [if_neg (by omega), if_pos same, if_pos (by omega)]
        simp [here]
      · have other : id ≠ .ofNat start := by
          rintro rfl
          omega
        obtain ⟨distance, far⟩ := Nat.exists_eq_add_of_lt behind
        rw [if_pos (by omega), if_neg other, if_pos (by omega), far,
          show start + distance + 1 - start = distance + 1 by omega,
          show start + distance + 1 - (start + 1) = distance by omega, List.getElem?_cons_succ]

/-- The rows leave their weights in the fingerprint. -/
theorem fingerprint_enter (entered : (replica.enter (.ofNat start) auctions).1 = .ok ())
    (room : start + auctions.length + 1 < UInt32.size) :
    (replica.enter (.ofNat start) auctions).2.fingerprint =
      replica.fingerprint +
        .ofInt ((auctions.zipIdx start).map fun row => row.1.weight + (row.2 : Int)).sum := by
  induction auctions generalizing replica start with
  | nil =>
      rw [List.length_nil] at room
      have number : (UInt32.ofNat start).toNat = start := UInt32.toNat_ofNat_of_lt' (by omega)
      rw [enter_nil (by omega)]
      simp
  | cons auction rest induction =>
      rw [List.length_cons] at room
      have number : (UInt32.ofNat start).toNat = start := UInt32.toNat_ofNat_of_lt' (by omega)
      have onward := enter_ofNat_cons entered
      rw [onward] at entered ⊢
      rw [induction entered (by omega), List.zipIdx_cons, List.map_cons, List.sum_cons,
        Int64.ofInt_add, Change.weight, number, Int64.add_assoc]

/-- Rows that can be accounted for are all filed. -/
theorem seed_of_accountable (replica : Replica) {bytes : List UInt8} {rows : List Auction}
    (read : Seed.read bytes = .ok rows) (accountable : Seed.Accountable rows) :
    (replica.enter (.ofNat 0) rows).1 = .ok () ∧
      replica.seed bytes = (.ok rows.length, (replica.enter (.ofNat 0) rows).2) := by
  have done : (replica.enter 0 rows).1 = .ok () :=
    Sown.entered accountable.counted accountable.weighed replica
  exact ⟨done, seed_of_entered read done⟩

theorem seed_eq_error_iff {bytes : List UInt8} {fault : SeedFault} {after : Replica}
    (accountable : ∀ rows, Seed.read bytes = .ok rows → Seed.Accountable rows) :
    replica.seed bytes = (.error fault, after) ↔
      after = replica ∧ Seed.read bytes = .error fault := by
  cases read : Seed.read bytes with
  | error cause =>
      rw [seed_of_error read, Prod.mk.injEq, Except.error.injEq, Except.error.injEq, and_comm,
        eq_comm (a := replica)]
  | ok rows =>
      obtain ⟨-, seeded⟩ := seed_of_accountable replica read (accountable rows read)
      simp [seeded]

/-- Seeding is all or nothing.  It fails exactly if some line cannot be read; then the first such
line is reported, by its place among all lines, and nothing has changed.  Otherwise there is a row
for each line that is not blank, and the rows are filed in order under the numbers from zero on, in
place of whatever was there, and accounted for; nothing else has changed. -/
theorem seed_all_or_nothing (replica : Replica) {bytes : List UInt8}
    (accountable : ∀ contents, List.Forall₂ Seed.Reads (Text.lines 10 bytes) contents →
      Seed.Accountable contents.reduceOption) :
    ((∃ fault, (replica.seed bytes).1 = .error fault) ↔
        ∃ line ∈ Text.lines 10 bytes, ∃ number fault, Seed.Fails number line fault) ∧
      (∀ fault after, replica.seed bytes = (.error fault, after) ↔
        after = replica ∧ ∃ before line later, Text.lines 10 bytes = before ++ line :: later ∧
          (∀ earlier ∈ before, ∃ content, Seed.Reads earlier content) ∧
          Seed.Fails (before.length + 1) line fault) ∧
      ∀ count after, replica.seed bytes = (.ok count, after) →
        ∃ contents, List.Forall₂ Seed.Reads (Text.lines 10 bytes) contents ∧
          (let rows := contents.reduceOption
          count = rows.length ∧
            count = (Text.lines 10 bytes).countP (fun line => !Seed.isBlankLine line) ∧
            (∀ id, after.auctions.find? id =
              (rows[id.toNat]?).or (replica.auctions.find? id)) ∧
            after.nextId = replica.nextId ∧ after.probeLimit = replica.probeLimit ∧
            after.fingerprint = replica.fingerprint +
              .ofInt (rows.zipIdx.map fun row => row.1.weight + (row.2 : Int)).sum) := by
  have light : ∀ rows, Seed.read bytes = .ok rows → Seed.Accountable rows := by
    intro rows read
    obtain ⟨contents, every, rfl⟩ := Seed.readLines_eq_ok_iff.mp read
    exact accountable contents every
  refine ⟨?_, fun fault after => ?_, fun count after seeded => ?_⟩
  · rw [← Seed.exists_readLines_eq_error_iff 1]
    constructor
    · rintro ⟨fault, failed⟩
      exact ⟨fault, ((seed_eq_error_iff light).mp (Prod.ext failed rfl)).2⟩
    · rintro ⟨fault, unread⟩
      exact ⟨fault, congrArg Prod.fst ((seed_eq_error_iff light).mpr ⟨rfl, unread⟩)⟩
  · rw [seed_eq_error_iff light, Seed.read, Seed.readLines_eq_error_iff]
    simp only [Nat.add_comm 1]
  · cases read : Seed.read bytes with
    | error fault =>
        rw [seed_of_error read] at seeded
        simp at seeded
    | ok rows =>
        obtain ⟨done, whole⟩ := seed_of_accountable replica read (light rows read)
        obtain ⟨same, rfl⟩ := Prod.mk.inj (whole.symm.trans seeded)
        obtain rfl := Except.ok.inj same
        have room : 0 + rows.length + 1 < UInt32.size := by simpa using (light rows read).counted
        obtain ⟨contents, every, rfl⟩ := Seed.readLines_eq_ok_iff.mp read
        refine ⟨contents, every, rfl, Seed.length_reduceOption_of_reads every, fun id => ?_,
          nextId_enter _ _ _, probeLimit_enter _ _ _, fingerprint_enter done room⟩
        rw [find?_enter done room, if_pos (Nat.zero_le _), Nat.sub_zero]

/-- A file of two rows with a blank line between them. -/
def twoRows : List UInt8 :=
  Text.utf8Bytes "1,lamp,2\n\n3, rug ,4\n"

/-- A replica with an auction under the number zero. -/
def oneRow : Replica :=
  ((fresh 1000 5000).seed (Text.utf8Bytes "5,bell,6")).2

theorem accountable_twoRows (contents : List (Option Auction))
    (every : List.Forall₂ Seed.Reads (Text.lines 10 twoRows) contents) :
    Seed.Accountable contents.reduceOption := by
  have rows : Seed.readLines 1 (Text.lines 10 twoRows) = .ok
      [.unbid Seed.owner ⟨0x3FF0000000000000⟩ "lamp" ⟨0x4000000000000000⟩,
        .unbid Seed.owner ⟨0x4008000000000000⟩ "rug" ⟨0x4010000000000000⟩] := by
    decide +kernel
  have read : Seed.readLines 1 (Text.lines 10 twoRows) = .ok contents.reduceOption :=
    Seed.readLines_eq_ok_iff.mpr ⟨contents, every, rfl⟩
  rw [Except.ok.inj (read.symm.trans rows)]
  have light :
      (Change.insert 0 (.unbid Seed.owner ⟨0x3FF0000000000000⟩ "lamp" ⟨0x4000000000000000⟩)).weight? ≠
          none ∧
        (Change.insert 1 (.unbid Seed.owner ⟨0x4008000000000000⟩ "rug"
          ⟨0x4010000000000000⟩)).weight? ≠ none := by
    decide +kernel
  refine ⟨by decide, fun id inside => ?_⟩
  obtain first | second : id.toNat = 0 ∨ id.toNat = 1 := by
    simp only [List.length_cons, List.length_nil] at inside
    omega
  · obtain rfl : id = 0 := UInt32.toNat_inj.mp first
    exact light.1
  · obtain rfl : id = 1 := UInt32.toNat_inj.mp second
    exact light.2

theorem seed_all_or_nothing_twoRows :
    (∀ contents, List.Forall₂ Seed.Reads (Text.lines 10 twoRows) contents →
        Seed.Accountable contents.reduceOption) ∧
      (oneRow.seed twoRows).1 = .ok 2 ∧ oneRow.auctions.contains 0 = true ∧
      ∃ contents, List.Forall₂ Seed.Reads (Text.lines 10 twoRows) contents ∧
        ∀ id, (oneRow.seed twoRows).2.auctions.find? id =
          (contents.reduceOption[id.toNat]?).or (oneRow.auctions.find? id) := by
  have answered : (oneRow.seed twoRows).1 = .ok 2 := by decide +kernel
  obtain ⟨-, -, seeded⟩ := oneRow.seed_all_or_nothing accountable_twoRows
  obtain ⟨contents, every, -, -, found, -⟩ := seeded 2 (oneRow.seed twoRows).2 (by rw [← answered])
  exact ⟨accountable_twoRows, answered, by decide +kernel, contents, every, found⟩

/-- It matters that the greatest number is left: rows that weigh little, one for each other number,
are all filed, and then counting fails. -/
theorem not_seed_all_or_nothing :
    ¬∀ (replica : Replica) (bytes : List UInt8),
      (∀ contents, List.Forall₂ Seed.Reads (Text.lines 10 bytes) contents →
        Seed.Weighed contents.reduceOption) →
      ((∃ fault, (replica.seed bytes).1 = .error fault) ↔
        ∃ line ∈ Text.lines 10 bytes, ∃ number fault, Seed.Fails number line fault) := by
  intro whole
  obtain ⟨count, isCount⟩ : ∃ count, count = UInt32.size - 1 := ⟨_, rfl⟩
  have read := read_lightRows count
  have light : ∀ contents, List.Forall₂ Seed.Reads (Text.lines 10 (lightRows count)) contents →
      Seed.Weighed contents.reduceOption := by
    intro contents every id inside
    have rows : contents.reduceOption = List.replicate count lightAuction :=
      Except.ok.inj ((Seed.readLines_eq_ok_iff.mpr ⟨contents, every, rfl⟩).symm.trans read)
    simpa only [rows, List.getElem_replicate] using insert_lightAuction id
  have failed : ((fresh 1000 5000).seed (lightRows count)).1 = .error .overflow := by
    refine seed_of_uncounted read ?_
    rw [List.length_replicate, isCount]
    decide
  obtain ⟨line, member, number, fault, fails⟩ :=
    (whole (fresh 1000 5000) (lightRows count) light).mp ⟨_, failed⟩
  rw [lines_lightRows] at member
  obtain ⟨-, rfl⟩ := List.mem_replicate.mp member
  exact reads_lightRow.not_fails fails

end Replica

end AuctionHouse
