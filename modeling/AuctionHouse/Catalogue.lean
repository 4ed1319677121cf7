import AuctionHouse.Auction.Basic

/-!
# Catalogues

A catalogue files values under auction numbers.  It is a list of rows in strictly ascending order
of their numbers, so two catalogues with the same entries are equal, and going through the rows
goes through the numbers from the least.  `Catalogue.find?` is the view: each operation has a lemma
that says what is found after it.
-/

namespace AuctionHouse

/-- Values filed under auction numbers. -/
structure Catalogue (value : Type) where
  /-- The entries from the least number on. -/
  rows : List (AuctionId × value)
  /-- No number occurs twice, and the rows are in order. -/
  ascending : rows.Pairwise fun earlier later => earlier.1 < later.1
deriving DecidableEq

namespace Catalogue

variable {value : Type}

/-- The value under a number, in rows in ascending order. -/
def lookupRow (id : AuctionId) : List (AuctionId × value) → Option value
  | [] => none
  | (key, entry) :: rest =>
    if key < id then lookupRow id rest else if key = id then some entry else none

/-- Puts a row into its place, replacing the one with the same number. -/
def insertRow (id : AuctionId) (entry : value) :
    List (AuctionId × value) → List (AuctionId × value)
  | [] => [(id, entry)]
  | (key, other) :: rest =>
    if key < id then (key, other) :: insertRow id entry rest
    else if key = id then (id, entry) :: rest
    else (id, entry) :: (key, other) :: rest

theorem mem_insertRow {id : AuctionId} {entry : value} {rows : List (AuctionId × value)}
    {row : AuctionId × value} (member : row ∈ insertRow id entry rows) :
    row = (id, entry) ∨ row ∈ rows := by
  induction rows with
  | nil => simpa [insertRow] using member
  | cons head rest ih =>
    obtain ⟨key, other⟩ := head
    rw [insertRow] at member
    split at member
    · rcases List.mem_cons.mp member with rfl | member
      · simp
      · rcases ih member with rfl | member
        · simp
        · simp [member]
    · split at member
      · rcases List.mem_cons.mp member with rfl | member
        · simp
        · simp [member]
      · rcases List.mem_cons.mp member with rfl | member
        · simp
        · exact Or.inr member

theorem ascending_insertRow {id : AuctionId} {entry : value} {rows : List (AuctionId × value)}
    (ascending : rows.Pairwise fun earlier later => earlier.1 < later.1) :
    (insertRow id entry rows).Pairwise fun earlier later => earlier.1 < later.1 := by
  induction rows with
  | nil => simp [insertRow]
  | cons head rest ih =>
    obtain ⟨key, other⟩ := head
    obtain ⟨above, sorted⟩ := List.pairwise_cons.mp ascending
    rw [insertRow]
    split
    · rename_i below
      refine List.pairwise_cons.mpr ⟨fun row member => ?_, ih sorted⟩
      rcases mem_insertRow member with rfl | member
      · exact below
      · exact above row member
    · rename_i notBelow
      split
      · rename_i same
        subst same
        exact List.pairwise_cons.mpr ⟨above, sorted⟩
      · rename_i different
        have before : id < key := by
          have := UInt32.not_lt.mp notBelow
          exact UInt32.lt_of_le_of_ne this fun same => different same.symm
        refine List.pairwise_cons.mpr ⟨fun row member => ?_, ascending⟩
        rcases List.mem_cons.mp member with rfl | member
        · exact before
        · exact UInt32.lt_trans before (above row member)

/-- The catalogue without entries. -/
def empty : Catalogue value := ⟨[], List.Pairwise.nil⟩

/-- The value under a number. -/
def find? (catalogue : Catalogue value) (id : AuctionId) : Option value :=
  lookupRow id catalogue.rows

/-- Whether there is a value under a number. -/
def contains (catalogue : Catalogue value) (id : AuctionId) : Bool := (catalogue.find? id).isSome

/-- Files a value under a number in place of any that was there. -/
def insert (catalogue : Catalogue value) (id : AuctionId) (entry : value) : Catalogue value :=
  ⟨insertRow id entry catalogue.rows, ascending_insertRow catalogue.ascending⟩

/-- Drops what is filed under a number. -/
def erase (catalogue : Catalogue value) (id : AuctionId) : Catalogue value :=
  ⟨catalogue.rows.filter fun row => row.1 ≠ id, catalogue.ascending.filter _⟩

/-- Two catalogues agree if they have the same numbers and their values agree one by one. -/
instance [BEq value] : BEq (Catalogue value) where
  beq left right := left.rows == right.rows

/-- How many entries there are. -/
def size (catalogue : Catalogue value) : Nat := catalogue.rows.length

/-- The catalogue of a list of rows, of which later ones replace earlier ones. -/
def ofList (rows : List (AuctionId × value)) : Catalogue value :=
  rows.foldr
    (fun row catalogue =>
      if catalogue.contains row.1 then catalogue else catalogue.insert row.1 row.2)
    empty

theorem lookupRow_of_lt {id : AuctionId} {rows : List (AuctionId × value)}
    (above : ∀ row ∈ rows, id < row.1) : lookupRow id rows = none := by
  cases rows with
  | nil => rfl
  | cons head rest =>
    obtain ⟨key, entry⟩ := head
    have below : id < key := above (key, entry) (by simp)
    have notBelow : ¬key < id := fun other => UInt32.lt_asymm below other
    have different : key ≠ id := fun same => UInt32.lt_irrefl id (same ▸ below)
    simp [lookupRow, notBelow, different]

theorem lookupRow_eq_some_iff {id : AuctionId} {entry : value} {rows : List (AuctionId × value)}
    (ascending : rows.Pairwise fun earlier later => earlier.1 < later.1) :
    lookupRow id rows = some entry ↔ (id, entry) ∈ rows := by
  induction rows with
  | nil => simp [lookupRow]
  | cons head rest ih =>
    obtain ⟨key, other⟩ := head
    obtain ⟨above, sorted⟩ := List.pairwise_cons.mp ascending
    by_cases below : key < id
    · have different : id ≠ key := fun same => UInt32.lt_irrefl id (same ▸ below)
      simp [lookupRow, below, ih sorted, different]
    · by_cases same : key = id
      · subst same
        have absent : (key, entry) ∉ rest := fun member =>
          UInt32.lt_irrefl key (above _ member)
        simp [lookupRow, absent, eq_comm]
      · have absent : (id, entry) ∉ rest := fun member => below (above _ member)
        have different : id ≠ key := fun equal => same equal.symm
        simp [lookupRow, below, same, absent, different]

/-- What is found under a number is a row with that number. -/
theorem find?_eq_some_iff (catalogue : Catalogue value) (id : AuctionId) (entry : value) :
    catalogue.find? id = some entry ↔ (id, entry) ∈ catalogue.rows :=
  lookupRow_eq_some_iff catalogue.ascending

@[simp]
theorem find?_empty (id : AuctionId) : (empty : Catalogue value).find? id = none := rfl

theorem lookupRow_insertRow (id other : AuctionId) (entry : value)
    (rows : List (AuctionId × value)) :
    lookupRow other (insertRow id entry rows) =
      if other = id then some entry else lookupRow other rows := by
  induction rows with
  | nil =>
    by_cases same : other = id
    · subst same
      simp [insertRow, lookupRow, UInt32.lt_irrefl]
    · have different : id ≠ other := fun equal => same equal.symm
      simp [insertRow, lookupRow, same, different]
  | cons head rest ih =>
    obtain ⟨key, present⟩ := head
    rw [insertRow]
    by_cases below : key < id
    · rw [if_pos below, lookupRow, lookupRow, ih]
      by_cases same : other = id
      · subst same
        simp [below]
      · simp [same]
    · rw [if_neg below]
      by_cases equal : key = id
      · subst equal
        rw [if_pos rfl, lookupRow, lookupRow]
        by_cases same : other = key
        · subst same
          simp [UInt32.lt_irrefl]
        · have different : key ≠ other := fun equal => same equal.symm
          simp [same, different]
      · have before : id < key :=
          UInt32.lt_of_le_of_ne (UInt32.not_lt.mp below) fun same => equal same.symm
        rw [if_neg equal, lookupRow]
        by_cases same : other = id
        · subst same
          simp [UInt32.lt_irrefl]
        · have different : id ≠ other := fun equal => same equal.symm
          by_cases above : id < other
          · simp [same, above]
          · have notAbove : ¬key < other := fun further =>
              above (UInt32.lt_trans before further)
            have distinct : key ≠ other := fun equal => above (equal ▸ before)
            simp [same, different, above, lookupRow, notAbove, distinct]

/-- After filing a value it is found, and everything else is as before. -/
theorem find?_insert (catalogue : Catalogue value) (id other : AuctionId) (entry : value) :
    (catalogue.insert id entry).find? other =
      if other = id then some entry else catalogue.find? other :=
  lookupRow_insertRow id other entry catalogue.rows

/-- After dropping a number nothing is found under it, and everything else is as before. -/
theorem find?_erase (catalogue : Catalogue value) (id other : AuctionId) :
    (catalogue.erase id).find? other = if other = id then none else catalogue.find? other := by
  refine Option.ext fun entry => ?_
  rw [find?_eq_some_iff]
  by_cases same : other = id
  · simp [erase, same]
  · simp [erase, same, find?_eq_some_iff]

end Catalogue

end AuctionHouse
