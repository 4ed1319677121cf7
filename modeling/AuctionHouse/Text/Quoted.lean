import AuctionHouse.Text.Unprintable

/-!
# Quoted texts

A text between double quotes, on one line and in visible characters: the quote, the backslash and
four control characters have two-character escapes, and what cannot be shown is written as its
hexadecimal number between braces.
-/

namespace AuctionHouse.Text

/-- How one character stands between the quotes. -/
def escapeChar (character : Char) : List Char :=
  match character with
  | '\x00' => ['\\', '0']
  | '\t' => ['\\', 't']
  | '\n' => ['\\', 'n']
  | '\r' => ['\\', 'r']
  | '"' => ['\\', '"']
  | '\\' => ['\\', '\\']
  | other =>
    if isUnprintable other then
      ['\\', 'u', '\x7b'] ++ Nat.toDigits 16 other.toNat ++ ['\x7d']
    else
      [other]

/-- The text between double quotes. -/
def quoted (text : String) : String :=
  String.ofList ('"' :: text.toList.flatMap escapeChar ++ ['"'])

end AuctionHouse.Text
