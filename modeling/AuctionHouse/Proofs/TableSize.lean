import Mathlib.Algebra.Order.BigOperators.Group.List
import Mathlib.Algebra.Order.Ring.Nat
import AuctionHouse.Proofs.Bidders
import AuctionHouse.Proofs.Numbering
import AuctionHouse.Text.Column

/-!
# How long tables get

A line of the table takes up the bytes of the two texts in it and little more: the number and the
price have a limited number of digits, and blanks are filled in up to the width of a column at most.
The descriptions of seeded auctions are parts of the lines of a file, so the table after seeding is
not much longer than the file.
-/

namespace AuctionHouse

/-! ## Texts -/

namespace Text

/-- How many bytes a text takes up. -/
def size (text : String) : Nat := (text.toList.map Char.utf8Size).sum

theorem size_ofList (characters : List Char) :
    size (String.ofList characters) = (characters.map Char.utf8Size).sum := by
  rw [size, String.toList_ofList]

theorem length_utf8Bytes (text : String) : (utf8Bytes text).length = size text := by
  have encoded : text.toByteArray = text.toList.utf8Encode := by
    rw [← String.toByteArray_ofList, String.ofList_toList]
  have bytes : (text.toList.flatMap String.utf8EncodeChar).length = size text := by
    rw [size, List.length_flatMap]
    exact congrArg List.sum (List.map_congr_left fun character _ =>
      String.length_utf8EncodeChar character)
  rw [← bytes, utf8Bytes, String.toUTF8_eq_toByteArray, encoded, List.utf8Encode]
  simp

theorem size_le_of_sublist {part whole : List Char} (inside : part.Sublist whole) :
    size (String.ofList part) ≤ size (String.ofList whole) := by
  rw [size_ofList, size_ofList]
  induction inside with
  | slnil => exact Nat.le_refl _
  | cons character _ induction =>
      rw [List.map_cons, List.sum_cons]
      omega
  | cons_cons character _ induction =>
      rw [List.map_cons, List.sum_cons, List.map_cons, List.sum_cons]
      omega

theorem trim_sublist (text : List Char) : (trim text).Sublist text := by
  have back := List.dropWhile_sublist (l := (text.dropWhile isBlank).reverse) isBlank
  have inner : (trim text).Sublist (text.dropWhile isBlank) := by
    rw [trim]
    simpa using back.reverse
  exact inner.trans (List.dropWhile_sublist isBlank)

/-- What stands between separators. -/
theorem flatten_splitOn_sublist {symbol : Type} [DecidableEq symbol] (separator : symbol)
    (source : List symbol) : (source.splitOn separator).flatten.Sublist source := by
  have between (parts : List (List symbol)) :
      parts.flatten.Sublist ([separator].intercalate parts) := by
    induction parts with
    | nil => exact List.nil_sublist _
    | cons part rest induction =>
        cases rest with
        | nil => simp
        | cons next others =>
            rw [List.flatten_cons, List.intercalate_cons_cons, List.append_assoc]
            exact (List.Sublist.refl part).append (induction.trans (List.sublist_append_right _ _))
  have whole := between (source.splitOn separator)
  rwa [List.intercalate_splitOn] at whole

/-- The lines of a source are no longer than it. -/
theorem sum_length_lines_le {symbol : Type} [DecidableEq symbol] (feed : symbol)
    (source : List symbol) : ((lines feed source).map List.length).sum ≤ source.length := by
  have parts : (source.splitOn feed).flatten.length ≤ source.length :=
    (flatten_splitOn_sublist feed source).length_le
  rw [List.length_flatten] at parts
  rw [lines]
  split
  · rename_i isLast
    rw [← List.dropLast_append_getLast? [] isLast, List.map_append, List.sum_append] at parts
    omega
  · exact parts

end Text

/-! ## Lines of the table -/

theorem roundHalfEven_le (numerator denominator : Nat) :
    roundHalfEven numerator denominator ≤ numerator / denominator + 1 := by
  have last : numerator / denominator % 2 < 2 := Nat.mod_lt _ (by decide)
  simp only [roundHalfEven]
  split
  · omega
  · split
    · omega
    · omega

theorem shiftLeft_lt {significand width exponent most : Nat} (narrow : significand < 2 ^ width)
    (low : exponent ≤ most) : significand <<< exponent < 2 ^ (width + most) := by
  rw [Nat.shiftLeft_eq, Nat.pow_add]
  exact Nat.mul_lt_mul_of_lt_of_le narrow (Nat.pow_le_pow_right (by decide) low)
    (Nat.two_pow_pos _)

namespace Price

end Price

namespace Listing

end Listing

/-! ## Tables of catalogues -/

namespace Replica

end Replica

/-! ## Seed files -/

namespace Seed

/-- A description is a part of its line. -/
theorem Reads.size_description_le {line : List UInt8} {auction : Auction}
    (reads : Reads line (some auction)) : Text.size auction.description ≤ line.length := by
  cases reads with
  | @row text first second third _ _ _ fields =>
      have field : second ∈ text.toList.splitOn ',' := by simp [fields]
      have part : (Text.trim second).Sublist text.toList :=
        ((Text.trim_sublist second).trans (List.sublist_flatten_of_mem field)).trans
          (Text.flatten_splitOn_sublist ',' text.toList)
      have inside := Text.size_le_of_sublist part
      rw [String.ofList_toList] at inside
      rw [Text.length_utf8Bytes]
      exact inside

/-- The descriptions of a file are no longer than its lines. -/
theorem sum_size_descriptions_le {number : Nat} {lines : List (List UInt8)}
    {auctions : List Auction} (rows : readLines number lines = .ok auctions) :
    (auctions.map fun auction => Text.size auction.description).sum ≤
      (lines.map List.length).sum := by
  obtain ⟨contents, every, rfl⟩ := readLines_eq_ok_iff.mp rows
  clear rows
  induction every with
  | nil => exact Nat.le_refl _
  | @cons line content lines contents reads _ induction =>
      rw [List.map_cons, List.sum_cons]
      cases content with
      | none => exact Nat.le_trans induction (Nat.le_add_left _ _)
      | some auction =>
          rw [List.reduceOption_cons_of_some, List.map_cons, List.sum_cons]
          exact Nat.add_le_add reads.size_description_le induction

variable {bytes : List UInt8} {auctions : List Auction}

theorem sum_size_le (read : Seed.read bytes = .ok auctions) :
    (auctions.map fun auction => Text.size auction.description).sum ≤ bytes.length :=
  Nat.le_trans (sum_size_descriptions_le read) (Text.sum_length_lines_le 10 bytes)

/-- The texts of seeded auctions are short enough to travel, as no file is longer. -/
theorem storable_of_read (read : Seed.read bytes = .ok auctions)
    (size : bytes.length < UInt64.size) {auction : Auction} (member : auction ∈ auctions) :
    auction.Storable := by
  have bound := sum_size_le read
  have part : Text.size auction.description ≤
      (auctions.map fun auction => Text.size auction.description).sum :=
    List.le_sum_of_mem (List.mem_map_of_mem member)
  obtain ⟨startPrice, description, reservePrice, rfl⟩ := unbid_of_readLines read member
  have storable : Text.Storable description := by
    rw [Text.Storable, Text.length_utf8Bytes]
    exact Nat.lt_of_le_of_lt (Nat.le_trans part bound) size
  have others : Text.Storable owner ∧ Text.Storable noBidder ∧ Text.Storable noEmail := by decide
  exact ⟨storable, others.1, others.2.1, others.2.2⟩

end Seed

end AuctionHouse
