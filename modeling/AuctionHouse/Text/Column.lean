/-!
# Columns

Left-aligned columns of a table of text: a field that is shorter than its column is filled up with
blanks, and a longer one is written in full.
-/

namespace AuctionHouse.Text

/-- The text with blanks behind it up to the given number of characters. -/
def leftAligned (width : Nat) (text : String) : String :=
  text ++ String.ofList (List.replicate (width - text.length) ' ')

theorem toList_leftAligned (width : Nat) (text : String) :
    (leftAligned width text).toList =
      text.toList ++ List.replicate (width - text.length) ' ' := by
  simp [leftAligned]

end AuctionHouse.Text
