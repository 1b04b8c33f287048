import Mathlib
import PeerCache.Http.PeerRoutes

/-! # Segments that are read back

Whatever a text contains, its segment is written with unreserved characters and escapes only, so
that it contains no separator, and reading it gives the text back. So the path that is made of a
group and a key is taken apart into just these two.
-/

namespace PeerCache

namespace Bytes

/-- The codes of characters as bytes. -/
def ofAscii (chars : List Char) : Bytes := chars.map fun char => UInt8.ofNat char.toNat

/-- The characters of ASCII are one byte each. -/
theorem ofText_of_ascii {chars : List Char} (ascii : ∀ char ∈ chars, char.toNat ≤ 127) :
    ofText (String.ofList chars) = ofAscii chars := by
  have encoded : ofText (String.ofList chars) = chars.flatMap String.utf8EncodeChar := by
    simp [ofText, List.utf8Encode]
  rw [encoded, ofAscii, List.map_eq_flatMap]
  refine List.flatMap_congr fun char member => ?_
  have small := ascii char member
  exact if_pos small

end Bytes

namespace Percent

/-! ## Escapes -/

/-- Whether a character occurs in written forms: the unreserved ones and the percent sign. -/
def isWritten (char : Char) : Bool := char.isAlphanum || "-._~%".toList.contains char

/-- What is true of all numbers up to 255 is true of every byte. -/
theorem forall_byte {p : UInt8 → Prop} (each : ∀ code < 256, p (UInt8.ofNat code)) (byte : UInt8) :
    p byte := by
  have known := each byte.toNat byte.toNat_lt
  rwa [UInt8.ofNat_toNat] at known

private theorem isWritten_of_mem_encodeByte (byte : UInt8) :
    ∀ char ∈ encodeByte byte, isWritten char = true ∧ char.toNat ≤ 127 := by
  have each : (encodeByte byte).all fun char => isWritten char && decide (char.toNat ≤ 127) :=
    forall_byte (p := fun byte =>
      (encodeByte byte).all fun char => isWritten char && decide (char.toNat ≤ 127))
      (by decide +kernel) byte
  simpa using each

private theorem ofAscii_unreserved (byte : UInt8) (unreserved : isUnreserved byte = true) :
    Bytes.ofAscii [Char.ofNat byte.toNat] = [byte] ∧ byte ≠ 37 :=
  forall_byte (p := fun byte => isUnreserved byte = true →
    Bytes.ofAscii [Char.ofNat byte.toNat] = [byte] ∧ byte ≠ 37) (by decide +kernel) byte unreserved

private theorem byte?_digits (byte : UInt8) :
    byte? (UInt8.ofNat (Hex.upperDigit (byte.toNat / 16)).toNat)
      (UInt8.ofNat (Hex.upperDigit (byte.toNat % 16)).toNat) = some byte :=
  forall_byte (p := fun byte => byte? (UInt8.ofNat (Hex.upperDigit (byte.toNat / 16)).toNat)
    (UInt8.ofNat (Hex.upperDigit (byte.toNat % 16)).toNat) = some byte) (by decide +kernel) byte

theorem decode_cons {byte : UInt8} (plain : byte ≠ 37) (rest : Bytes) :
    decode (byte :: rest) = byte :: decode rest := by
  match rest with
  | [] => rfl
  | [_] => rfl
  | _ :: _ :: _ => rw [decode, if_neg plain]

theorem decode_escape {high low byte : UInt8} (stands : byte? high low = some byte)
    (rest : Bytes) : decode (37 :: high :: low :: rest) = byte :: decode rest := by
  rw [decode, if_pos rfl, stands]

private theorem decode_encodeByte (byte : UInt8) (rest : Bytes) :
    decode (Bytes.ofAscii (encodeByte byte) ++ rest) = byte :: decode rest := by
  unfold encodeByte
  split
  case isTrue unreserved =>
    obtain ⟨same, plain⟩ := ofAscii_unreserved byte unreserved
    rw [same]
    exact decode_cons plain rest
  case isFalse => exact decode_escape (byte?_digits byte) rest

private theorem decode_flatMap_encodeByte (bytes : Bytes) :
    decode (Bytes.ofAscii (bytes.flatMap encodeByte)) = bytes := by
  induction bytes with
  | nil => rfl
  | cons byte rest ih =>
    rw [List.flatMap_cons, Bytes.ofAscii, List.map_append]
    exact (decode_encodeByte byte _).trans (congrArg _ ih)

theorem isWritten_of_mem_encode {text : String} {char : Char}
    (member : char ∈ (encode text).toList) : isWritten char = true ∧ char.toNat ≤ 127 := by
  rw [encode, String.toList_ofList, List.mem_flatMap] at member
  obtain ⟨byte, -, written⟩ := member
  exact isWritten_of_mem_encodeByte byte char written

/-- Reading a written form gives the bytes of the text. -/
theorem decode_encode (text : String) :
    decode (Bytes.ofText (encode text)) = Bytes.ofText text := by
  have ascii : ∀ char ∈ (Bytes.ofText text).flatMap encodeByte, char.toNat ≤ 127 := by
    intro char member
    obtain ⟨byte, -, written⟩ := List.mem_flatMap.mp member
    exact (isWritten_of_mem_encodeByte byte char written).2
  rw [encode, Bytes.ofText_of_ascii ascii, decode_flatMap_encodeByte]

end Percent

namespace Segment

/-! ## Segments -/

theorem isWritten_of_mem_encode {text : String} {char : Char}
    (member : char ∈ (encode text).toList) : Percent.isWritten char = true := by
  unfold encode at member
  split at member
  case isTrue =>
    rw [String.toList_append, List.mem_append] at member
    rcases member with tilde | member
    · obtain rfl : char = '~' := by simpa using tilde
      decide
    · exact (Percent.isWritten_of_mem_encode member).1
  case isFalse => exact (Percent.isWritten_of_mem_encode member).1

theorem ofText_tilde (text : String) : Bytes.ofText ("~" ++ text) = 126 :: Bytes.ofText text := by
  simp only [Bytes.ofText, String.toByteArray_append]
  rfl

/-- A segment has the bytes of its text, behind the tilde that guards it if there is one. -/
theorem decode_encode (text : String) : Percent.decode (Bytes.ofText (encode text)) =
    if needsGuard text then 126 :: Bytes.ofText text else Bytes.ofText text := by
  unfold encode
  split
  · rw [ofText_tilde, Percent.decode_cons (by decide), Percent.decode_encode]
  · rw [Percent.decode_encode]

/-- A segment is read as the text that it was written for. -/
theorem decode?_encode (text : String) : decode? (encode text) = some text := by
  rw [decode?, decode_encode]
  split
  case isTrue guarded =>
    rw [← ofText_tilde, Bytes.toText?_ofText]
    simp [strip]
  case isFalse unguarded =>
    rw [Bytes.toText?_ofText, Option.map_some, strip]
    split
    · next rest starts => simp [needsGuard, starts] at unguarded
    · rfl

end Segment

namespace PeerRoutes

/-- The path of a group and a key under a base path is taken apart into these two. -/
theorem groupAndKey?_encode (group key : String) :
    groupAndKey? ((Segment.encode group).toList ++ '/' :: (Segment.encode key).toList) =
      some (group, key) := by
  have whole : ∀ text, '/' ∉ (Segment.encode text).toList := by
    intro text member
    exact absurd (Segment.isWritten_of_mem_encode member) (by decide)
  rw [groupAndKey?, List.splitOn_append_cons_self_of_not_mem (whole group),
    List.splitOn_eq_singleton (whole key)]
  simp [String.ofList_toList, Segment.decode?_encode]

end PeerRoutes

end PeerCache
