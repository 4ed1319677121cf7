import AuctionHouse.Proofs.Capacity
import AuctionHouse.Proofs.Ensemble
import AuctionHouse.Proofs.TableSize

/-!
# Seeds

A seed file fills the numbers from zero on, one for each row.  So the first search for a free number
passes the rows that reach beyond the number it begins with, and it is given up if they reach further
than it may go.  A file with a row for every number but the greatest, or with more rows still, is too
long to be entered.
-/

namespace AuctionHouse

/-! ## Light changes -/

theorem checkedSum?_append (sum : Int) (terms more : List Int) :
    checkedSum? sum (terms ++ more) =
      (checkedSum? sum terms).bind fun total => checkedSum? total more := by
  induction terms generalizing sum with
  | nil => rfl
  | cons term rest induction =>
      rw [List.cons_append, checkedSum?, checkedSum?]
      split
      · exact induction _
      · rfl

/-- An auction whose own terms are easily added up has a weight under every number. -/
theorem Auction.insert_light {auction : Auction} {total : Int}
    (summed : checkedSum? 0 auction.weightTerms = some total) (low : 0 ≤ total)
    (high : total ≤ Int64.maxValue.toInt - UInt32.size) (id : AuctionId) :
    (Change.insert id auction).weight? = some (Change.insert id auction).weight := by
  have number : id.toNat < UInt32.size := id.toNat_lt_size
  have least : Int64.minValue.toInt ≤ 0 := by decide
  have term : fitsWord id.toNat := ⟨by omega, by omega⟩
  have sum : fitsWord (total + id.toNat) := ⟨by omega, by omega⟩
  have light : (Change.insert id auction).weight? = some (total + id.toNat) := by
    rw [Change.weight?, Change.weightTerms, checkedSum?_append, summed, Option.bind_some,
      checkedSum?, if_pos ⟨term, sum⟩, checkedSum?]
  rw [light, ← Change.weight?_eq_some light]

/-! ## Rows that are entered -/

namespace Replica

variable {replica : Replica}

/-- All rows are entered if each of them has a weight under its number and there are not too many of
them. -/
theorem enter_of_weighed {auctions : List Auction} (room : auctions.length + 1 < UInt32.size)
    (weighed : ∀ (place : Nat) (inside : place < auctions.length),
      (Change.insert (.ofNat place) auctions[place]).weight? ≠ none) :
    (replica.enter 0 auctions).1 = .ok () := by
  cases result : replica.enter 0 auctions with
  | mk answer after =>
      cases answer with
      | ok done => rfl
      | error overflow =>
          cases overflow
          obtain ⟨entered, auction, rest, -, rfl, -, ⟨heavy, -⟩ | ⟨full, -⟩⟩ :=
            (enter_eq_overflow_iff (by decide)).mp result
          · have inside : entered.length < (entered ++ auction :: rest).length := by simp
            have light := weighed entered.length inside
            rw [List.getElem_append_right (Nat.le_refl _)] at light
            rw [UInt32.zero_add] at heavy
            simp [heavy] at light
          · rw [List.length_append, List.length_cons] at room
            rw [UInt32.toNat_zero] at full
            omega

/-- A row that is entered is filed and accounted for before the others. -/
theorem enter_cons_of_ok {id : AuctionId} {auction : Auction} {auctions : List Auction}
    (entered : (replica.enter id (auction :: auctions)).1 = .ok ()) :
    replica.enter id (auction :: auctions) =
      enter { replica with
        auctions := replica.auctions.insert id auction
        fingerprint := replica.fingerprint + .ofInt (Change.insert id auction).weight }
        (id + 1) auctions := by
  have below : id.toNat + 1 < UInt32.size := by
    have room := room_of_entered entered
    omega
  cases recorded : replica.fingerprint.record? (.insert id auction) with
  | none =>
      rw [enter, if_pos below] at entered
      simp [recorded] at entered
  | some fingerprint =>
      obtain ⟨-, rfl⟩ := Fingerprint.record?_eq_some recorded
      exact enter_cons below recorded auctions

/-- A file whose rows are all entered. -/
theorem seed_of_entered {bytes : List UInt8} {auctions : List Auction}
    (read : Seed.read bytes = .ok auctions) (done : (replica.enter 0 auctions).1 = .ok ()) :
    replica.seed bytes = (.ok auctions.length, (replica.enter 0 auctions).2) := by
  rw [seed, read]
  simp only
  split
  · rename_i seeded entered
    rw [entered]
  · rename_i interrupted
    simp [interrupted] at done

/-- A file with too many rows to be counted. -/
theorem seed_of_uncounted {bytes : List UInt8} {auctions : List Auction}
    (read : Seed.read bytes = .ok auctions) (many : UInt32.size ≤ auctions.length + 1) :
    (replica.seed bytes).1 = .error .overflow := by
  rw [seed, read]
  cases result : replica.enter 0 auctions with
  | mk answer after =>
      cases answer with
      | ok done =>
          have room := room_of_entered (congrArg Prod.fst result)
          rw [UInt32.toNat_zero] at room
          omega
      | error overflow => simp only [result]

end Replica

/-- A seed of so many rows: none at all, or a file in which every row that has a number has a weight
under it.  The length of a file is a signed word. -/
inductive Sown : Option (Option (List UInt8)) → Nat → Prop
  | nothing : Sown none 0
  | file {bytes : List UInt8} {auctions : List Auction} (short : bytes.length < UInt64.size / 2)
      (read : Seed.read bytes = .ok auctions)
      (weighed : ∀ (id : AuctionId) (inside : id.toNat < auctions.length),
        (Change.insert id auctions[id.toNat]).weight? ≠ none) :
      Sown (some (some bytes)) auctions.length

variable {settings : Settings} {seed : Option (Option (List UInt8))} {rows : Nat}

namespace Sown

theorem entered {auctions : List Auction} (room : auctions.length + 1 < UInt32.size)
    (weighed : ∀ (id : AuctionId) (inside : id.toNat < auctions.length),
      (Change.insert id auctions[id.toNat]).weight? ≠ none) (replica : Replica) :
    (replica.enter 0 auctions).1 = .ok () :=
  Replica.enter_of_weighed room fun place inside => by
    have number : (UInt32.ofNat place).toNat = place := UInt32.toNat_ofNat_of_lt' (by omega)
    have light := weighed (.ofNat place) (by rwa [number])
    simpa only [number] using light

/-- The seeded texts are short enough to travel. -/
theorem storable_first (sown : Sown seed rows) :
    (Replica.first settings seed).snapshot.Storable := by
  cases sown with
  | nothing =>
      intro row member
      simp [Replica.first, Replica.fresh, Replica.snapshot, Catalogue.empty] at member
  | file short read weighed =>
      intro row member
      rcases Replica.mem_seedFile member with old | ⟨bytes, auctions, same, read', new⟩
      · simp [Replica.fresh, Catalogue.empty] at old
      · obtain rfl := Option.some.inj same
        obtain rfl := Except.ok.inj (read.symm.trans read')
        exact Seed.storable_of_read read (by omega) new

end Sown

namespace Replica

/-- A row that weighs little. -/
def lightRow : List UInt8 := Text.utf8Bytes "0,,0"

/-- A file of so many rows that weigh little. -/
def lightRows (count : Nat) : List UInt8 := (List.replicate count (lightRow ++ [10])).flatten

theorem lines_lightRows (count : Nat) :
    Text.lines 10 (lightRows count) = List.replicate count lightRow := by
  induction count with
  | zero => rfl
  | succ count induction =>
      have first : lightRows (count + 1) = lightRow ++ 10 :: lightRows count := by
        simp [lightRows, List.replicate_succ]
      have one : lightRow.splitOn 10 = [lightRow] := by decide
      rw [first, Text.lines_append_feed, induction, one, List.replicate_succ,
        List.singleton_append]

/-- What stands in each of them. -/
def lightAuction : Auction := .unbid Seed.owner ⟨0⟩ "" ⟨0⟩

theorem reads_lightRow : Seed.Reads lightRow (some lightAuction) := by
  have fields : "0,,0".toList.splitOn ',' = [['0'], [], ['0']] := by decide
  have price : Price.read? (Text.trim ['0']) = some ⟨0⟩ := by decide +kernel
  exact .row (by decide) fields price price

theorem read_lightRows (count : Nat) :
    Seed.read (lightRows count) = .ok (List.replicate count lightAuction) := by
  refine Seed.readLines_eq_ok_iff.mpr ⟨List.replicate count (some lightAuction), ?_, ?_⟩
  · rw [lines_lightRows]
    induction count with
    | zero => exact .nil
    | succ count induction => exact .cons reads_lightRow induction
  · induction count with
    | zero => rfl
    | succ count induction =>
        rw [List.replicate_succ, List.reduceOption_cons_of_some, induction, List.replicate_succ]

theorem insert_lightAuction (id : AuctionId) : (Change.insert id lightAuction).weight? ≠ none := by
  have summed : checkedSum? 0 lightAuction.weightTerms = some 2172 := by decide +kernel
  rw [Auction.insert_light summed (by decide) (by decide)]
  simp

end Replica

end AuctionHouse
