/-! # Text and its UTF-8 bytes

Keys and values are weighed, hashed and sent as bytes. This module fixes the byte string type of the
library and the three passages between text and bytes: encoding, strict decoding, and the decoding
that shows every unreadable stretch as one replacement character.
-/

namespace PeerCache

/-- A byte string, first byte first. -/
abbrev Bytes := List UInt8

namespace Bytes

/-- The UTF-8 bytes of a text. -/
def ofText (text : String) : Bytes := text.toByteArray.data.toList

/-- The text whose UTF-8 bytes these are, if they are well formed. -/
def toText? (bytes : Bytes) : Option String := String.fromUTF8? bytes.toByteArray

/-- The weight of a text is counted in UTF-8 bytes, so encoding keeps it. -/
theorem length_ofText (text : String) : (ofText text).length = text.utf8ByteSize := by
  simp only [ofText, String.utf8ByteSize, Array.length_toList]
  rfl

theorem toByteArray_ofText (text : String) : (ofText text).toByteArray = text.toByteArray := by
  apply ByteArray.ext
  simp [ofText]

/-- Strict decoding reads back every encoded text. -/
theorem toText?_ofText (text : String) : toText? (ofText text) = some text := by
  rw [toText?, toByteArray_ofText, String.fromUTF8?, dif_pos text.isValidUTF8]
  rfl

/-! ## Replacement of unreadable stretches -/

/-- A continuation byte has the form `10xxxxxx`. -/
def isContinuation (byte : UInt8) : Bool := 0x80 ≤ byte && byte ≤ 0xBF

/-- Whether `second` may follow `lead` in a sequence of three or four bytes. The narrower ranges
rule out overlong forms, surrogates and values above U+10FFFF. -/
def continues (lead second : UInt8) : Bool :=
  if lead = 0xE0 then 0xA0 ≤ second && second ≤ 0xBF
  else if lead = 0xED then 0x80 ≤ second && second ≤ 0x9F
  else if 0xE1 ≤ lead && lead ≤ 0xEF then isContinuation second
  else if lead = 0xF0 then 0x90 ≤ second && second ≤ 0xBF
  else if 0xF1 ≤ lead && lead ≤ 0xF3 then isContinuation second
  else if lead = 0xF4 then 0x80 ≤ second && second ≤ 0x8F
  else false

/-- The length of the maximal subpart at the head of bytes that start no character: the longest
stretch that begins some well-formed sequence, and one byte if none does. -/
def brokenLength : Bytes → Nat
  | lead :: second :: third :: _ =>
    if continues lead second then if 0xF0 ≤ lead && isContinuation third then 3 else 2 else 1
  | [lead, second] => if continues lead second then 2 else 1
  | _ => 1

/-- The character shown for the head of some bytes, and how many bytes it stands for. -/
def headChar (bytes : Bytes) : Char × Nat :=
  match ByteArray.utf8DecodeChar? (bytes.take 4).toByteArray 0 with
  | some char => (char, char.utf8Size)
  | none => ('\uFFFD', brokenLength bytes)

/-- The characters shown for some bytes, after the first `skip` of them are passed over. -/
def readable : (skip : Nat) → Bytes → List Char
  | _, [] => []
  | skip + 1, _ :: rest => readable skip rest
  | 0, byte :: rest =>
    let (char, length) := headChar (byte :: rest)
    char :: readable (length - 1) rest

/-- The text shown for any bytes: each maximal unreadable subpart becomes one U+FFFD. -/
def toTextLossy (bytes : Bytes) : String := String.ofList (readable 0 bytes)

end Bytes

end PeerCache
