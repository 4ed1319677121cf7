/-!
# Reading text from bytes

A text is stored as its UTF-8 bytes.  Reading refuses bytes that are no UTF-8 and then says where
the first faulty character starts and how many bytes of it were read before the fault; a text that
ends inside a character has no such count.
-/

namespace AuctionHouse.Text

/-- Where bytes stop being UTF-8. -/
structure Utf8Fault where
  /-- How many bytes in front of the fault are well formed. -/
  validUpTo : Nat
  /-- How many bytes the faulty character spans; none if the bytes end inside it. -/
  length : Option Nat
deriving DecidableEq

/-- What is still to come of a character: how many bytes, and the range of the next one. -/
structure Pending where
  /-- How many bytes are owed. -/
  owed : Nat
  /-- The least value of the next byte. -/
  low : Nat
  /-- The greatest value of the next byte. -/
  high : Nat

namespace Pending

/-- Nothing is owed: the next byte starts a character. -/
def nothing : Pending := ⟨0, 0x80, 0xBF⟩

/-- What a first byte announces.  The ranges rule out overlong forms, surrogates and numbers above
the last code point. -/
def announced? (first : Nat) : Option Pending :=
  if first < 0x80 then some nothing
  else if first < 0xC2 then none
  else if first < 0xE0 then some ⟨1, 0x80, 0xBF⟩
  else if first = 0xE0 then some ⟨2, 0xA0, 0xBF⟩
  else if first = 0xED then some ⟨2, 0x80, 0x9F⟩
  else if first < 0xF0 then some ⟨2, 0x80, 0xBF⟩
  else if first = 0xF0 then some ⟨3, 0x90, 0xBF⟩
  else if first < 0xF4 then some ⟨3, 0x80, 0xBF⟩
  else if first = 0xF4 then some ⟨3, 0x80, 0x8F⟩
  else none

end Pending

/-- Scans on from a byte position inside the character that began at `start`. -/
def faultFrom (start position : Nat) (pending : Pending) : List UInt8 → Utf8Fault
  | [] => ⟨start, none⟩
  | byte :: rest =>
    if pending.owed = 0 then
      match Pending.announced? byte.toNat with
      | some announced => faultFrom position (position + 1) announced rest
      | none => ⟨position, some 1⟩
    else if pending.low ≤ byte.toNat ∧ byte.toNat ≤ pending.high then
      faultFrom start (position + 1) ⟨pending.owed - 1, 0x80, 0xBF⟩ rest
    else
      ⟨start, some (position - start)⟩

/-- The first fault of bytes that are no UTF-8. -/
def utf8Fault (bytes : List UInt8) : Utf8Fault := faultFrom 0 0 .nothing bytes

/-- The UTF-8 bytes of a text. -/
def utf8Bytes (text : String) : List UInt8 := text.toUTF8.data.toList

/-- The text of which these are the UTF-8 bytes. -/
def ofUtf8 (bytes : List UInt8) : Except Utf8Fault String :=
  match String.fromUTF8? ⟨bytes.toArray⟩ with
  | some text => .ok text
  | none => .error (utf8Fault bytes)

/-- What was written as UTF-8 is read back. -/
theorem ofUtf8_utf8Bytes (text : String) : ofUtf8 (utf8Bytes text) = .ok text := by
  have valid : ByteArray.IsValidUTF8 ⟨(utf8Bytes text).toArray⟩ := by
    simpa [utf8Bytes] using text.isValidUTF8
  have read : String.fromUTF8? ⟨(utf8Bytes text).toArray⟩ = some text := by
    rw [String.fromUTF8?, dif_pos valid]
    simp [utf8Bytes, String.fromUTF8]
  rw [ofUtf8, read]

end AuctionHouse.Text
