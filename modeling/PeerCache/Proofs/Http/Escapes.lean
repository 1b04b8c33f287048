import PeerCache.Proofs.Http.Grammar
import PeerCache.Proofs.Http.Paths

/-! # Segments are a safe code

What a written form stands for is said here without the way in which it is read: an escape, which is
a percent sign with two digits behind it, stands for the byte that the digits write, and whatever
begins no escape stands for itself. The segment of a text is made of unreserved characters and of
escapes in upper case, it never stands for dots, and the text is read back from it. Any segment is
read by the same rule, and is refused only if what it stands for is not UTF-8.
-/

namespace PeerCache

namespace Bytes

/-- Bytes are no text exactly if they are not UTF-8. -/
theorem toText?_eq_none_iff {bytes : Bytes} :
    toText? bytes = none ↔ ¬ bytes.toByteArray.IsValidUTF8 := by
  unfold toText? String.fromUTF8?
  split <;> simp_all

private theorem ofText_append (first second : String) :
    ofText (first ++ second) = ofText first ++ ofText second := by
  simp [ofText, String.toByteArray_append]

end Bytes

namespace Hex

/-- A character is the digit of a value, in either case. -/
def IsDigit (char : Char) (value : Nat) : Prop :=
  value < 16 ∧ (char = lowerDigit value ∨ char = upperDigit value)

instance (char : Char) (value : Nat) : Decidable (IsDigit char value) :=
  inferInstanceAs (Decidable (_ ∧ _))

variable {char : Char} {code value : Nat}

/-- There are few digits to look at. -/
theorem forall_digit {p : Char → Nat → Prop}
    (each : ∀ value < 16, p (lowerDigit value) value ∧ p (upperDigit value) value)
    (digit : IsDigit char value) : p char value := by
  obtain ⟨small, rfl | rfl⟩ := digit
  · exact (each value small).1
  · exact (each value small).2

private theorem lt_of_value? (known : value? code = some value) : code < 128 := by
  by_contra large
  simp only [value?] at known
  split_ifs at known <;> omega

/-- What is read as a digit is the code of one. -/
theorem value?_eq_some_iff :
    value? code = some value ↔ ∃ char, IsDigit char value ∧ char.toNat = code := by
  constructor
  · intro known
    have each : ∀ code < 128, ∀ value ∈ value? code,
        IsDigit (Char.ofNat code) value ∧ (Char.ofNat code).toNat = code := by decide +kernel
    exact ⟨Char.ofNat code, each code (lt_of_value? known) value known⟩
  · rintro ⟨char, digit, rfl⟩
    exact forall_digit (p := fun char value => value? char.toNat = some value)
      (by decide +kernel) digit

end Hex

namespace Percent

/-- The code of a digit of a value. -/
def Digit (byte : UInt8) (value : Nat) : Prop :=
  ∃ char, Hex.IsDigit char value ∧ char.toNat = byte.toNat

/-- A written form begins with a percent sign and two digits. -/
def BeginsEscape (written : Bytes) : Prop :=
  ∃ high low rest highValue lowValue, written = 37 :: high :: low :: rest ∧
    Digit high highValue ∧ Digit low lowValue

/-- The bytes that a written form stands for. -/
inductive StandsFor : Bytes → Bytes → Prop
  | nil : StandsFor [] []
  | escape {high low : UInt8} {highValue lowValue : Nat} {rest bytes : Bytes}
      (first : Digit high highValue) (second : Digit low lowValue) (later : StandsFor rest bytes) :
      StandsFor (37 :: high :: low :: rest) (UInt8.ofNat (16 * highValue + lowValue) :: bytes)
  /-- Whatever begins no escape stands for itself. -/
  | plain {byte : UInt8} {rest bytes : Bytes} (plain : ¬ BeginsEscape (byte :: rest))
      (later : StandsFor rest bytes) : StandsFor (byte :: rest) (byte :: bytes)

/-- Unreserved characters, and escapes in upper case. -/
inductive Coded : List Char → Prop
  | nil : Coded []
  | unreserved {char : Char} {rest : List Char}
      (unreserved : char.isAlphanum = true ∨ char ∈ ['-', '.', '_', '~']) (later : Coded rest) :
      Coded (char :: rest)
  | escape {high low : Char} {rest : List Char} (first : high ∈ "0123456789ABCDEF".toList)
      (second : low ∈ "0123456789ABCDEF".toList) (later : Coded rest) :
      Coded ('%' :: high :: low :: rest)

section

variable {high low byte mark : UInt8} {highValue lowValue : Nat} {written bytes rest front : Bytes}

/-! ## What is read -/

theorem value?_eq_some_iff : Hex.value? byte.toNat = some highValue ↔ Digit byte highValue :=
  Hex.value?_eq_some_iff

theorem byte?_eq_some_iff : byte? high low = some byte ↔ ∃ highValue lowValue,
    Digit high highValue ∧ Digit low lowValue ∧ byte = UInt8.ofNat (16 * highValue + lowValue) := by
  simp only [← value?_eq_some_iff]
  constructor
  · intro read
    obtain ⟨highValue, first, read⟩ := Option.bind_eq_some_iff.mp read
    obtain ⟨lowValue, second, read⟩ := Option.bind_eq_some_iff.mp read
    cases read
    exact ⟨highValue, lowValue, first, second, rfl⟩
  · rintro ⟨highValue, lowValue, first, second, rfl⟩
    simp [byte?, first, second]

private theorem beginsEscape_iff : BeginsEscape (mark :: high :: low :: rest) ↔
    ∃ byte, (if mark = 37 then byte? high low else none) = some byte := by
  constructor
  · rintro ⟨_, _, _, highValue, lowValue, ⟨⟩, first, second⟩
    exact ⟨_, by rw [if_pos rfl]; exact byte?_eq_some_iff.mpr ⟨_, _, first, second, rfl⟩⟩
  · rintro ⟨byte, read⟩
    split_ifs at read with percent
    obtain ⟨highValue, lowValue, first, second, -⟩ := byte?_eq_some_iff.mp read
    exact ⟨high, low, rest, highValue, lowValue, by rw [percent], first, second⟩

private theorem decode_of_plain (plain : ¬ BeginsEscape (byte :: rest)) :
    decode (byte :: rest) = byte :: decode rest := by
  match rest with
  | [] => rfl
  | [_] => rfl
  | high :: low :: rest =>
    rw [beginsEscape_iff, not_exists] at plain
    rw [decode, Option.eq_none_iff_forall_ne_some.mpr plain]

/-- A written form is read as the bytes that it stands for. -/
theorem decode_eq_iff : decode written = bytes ↔ StandsFor written bytes := by
  constructor
  · rintro rfl
    fun_induction decode written with
    | case1 mark high low rest byte read ih =>
      split_ifs at read with percent
      obtain ⟨highValue, lowValue, first, second, rfl⟩ := byte?_eq_some_iff.mp read
      exact percent ▸ .escape first second ih
    | case2 mark high low rest unread ih =>
      refine .plain ?_ ih
      rw [beginsEscape_iff]
      simp [unread]
    | case3 byte rest short ih =>
      refine .plain ?_ ih
      rintro ⟨high, low, rest', highValue, lowValue, ⟨⟩, -, -⟩
      exact short high low rest' rfl
    | case4 => exact .nil
  · intro stands
    induction stands with
    | nil => rfl
    | escape first second later ih =>
      rw [decode_escape (byte?_eq_some_iff.mpr ⟨_, _, first, second, rfl⟩), ih]
    | plain plain later ih => rw [decode_of_plain plain, ih]

private theorem not_digit_percent (value : Nat) : ¬ Digit 37 value := by
  rw [← value?_eq_some_iff]
  exact nofun

/-- No escape reaches as far as the next percent sign, which is no digit. -/
theorem BeginsEscape.of_append (begins : BeginsEscape (mark :: front ++ 37 :: rest)) :
    BeginsEscape (mark :: front) := by
  obtain ⟨high, low, later, highValue, lowValue, same, first, second⟩ := begins
  rw [List.cons_append, List.cons.injEq] at same
  obtain ⟨rfl, same⟩ := same
  match front with
  | [] =>
    cases same
    exact absurd first (not_digit_percent highValue)
  | [_] =>
    cases same
    exact absurd second (not_digit_percent lowValue)
  | _ :: _ :: _ =>
    cases same
    exact ⟨high, low, _, highValue, lowValue, rfl, first, second⟩

/-- A written form may be parted in front of any percent sign. -/
theorem StandsFor.append {bytes' : Bytes} (stands : StandsFor front bytes)
    (stands' : StandsFor (37 :: rest) bytes') :
    StandsFor (front ++ 37 :: rest) (bytes ++ bytes') := by
  induction stands with
  | nil => exact stands'
  | escape first second _ ih => exact .escape first second ih
  | plain plain _ ih => exact .plain (mt BeginsEscape.of_append plain) ih

/-! ## What is written -/

private theorem Coded.encodeByte_append {coded : List Char} (later : Coded coded) (byte : UInt8) :
    Coded (encodeByte byte ++ coded) := by
  unfold encodeByte
  split
  case isTrue unreserved =>
    refine .unreserved ?_ later
    exact forall_byte (p := fun byte => isUnreserved byte = true →
      (Char.ofNat byte.toNat).isAlphanum = true ∨ Char.ofNat byte.toNat ∈ ['-', '.', '_', '~'])
      (by decide +kernel) byte unreserved
  case isFalse =>
    have digits : Hex.upperDigit (byte.toNat / 16) ∈ "0123456789ABCDEF".toList ∧
        Hex.upperDigit (byte.toNat % 16) ∈ "0123456789ABCDEF".toList :=
      forall_byte (p := fun byte =>
        Hex.upperDigit (byte.toNat / 16) ∈ "0123456789ABCDEF".toList ∧
          Hex.upperDigit (byte.toNat % 16) ∈ "0123456789ABCDEF".toList) (by decide +kernel) byte
    exact .escape digits.1 digits.2 later

theorem coded_encode (text : String) : Coded (encode text).toList := by
  rw [encode, String.toList_ofList]
  induction Bytes.ofText text with
  | nil => exact .nil
  | cons byte rest ih => exact ih.encodeByte_append byte

end

end Percent

namespace Segment

open Percent (StandsFor BeginsEscape)

/-- What it means for segments that they are a safe code of texts. -/
structure SafeCode : Prop where
  /-- Every text is read back from its segment. -/
  reads : ∀ text, decode? (encode text) = some text
  /-- Different texts have different segments. -/
  injective : Function.Injective encode
  /-- A segment consists of unreserved characters and of escapes in upper case. -/
  coded : ∀ text, Percent.Coded (encode text).toList
  /-- It contains none of the characters that part an address. -/
  whole : ∀ text, ∀ char ∈ ['/', '?', '#'], char ∉ (encode text).toList
  /-- It is empty only for the empty text. -/
  empty : ∀ text, encode text = "" → text = ""
  /-- It is not made of dots, nor does it stand for them. -/
  dots : ∀ text, ∀ dots ∈ [".", ".."], encode text ≠ dots ∧
    ¬ StandsFor (Bytes.ofText (encode text)) (Bytes.ofText dots)
  /-- Reading any segment fails if what it stands for is not UTF-8, and in no other case. -/
  unread : ∀ segment, decode? segment = none ↔
    ∃ bytes, StandsFor (Bytes.ofText segment) bytes ∧ ¬ bytes.toByteArray.IsValidUTF8
  /-- A percent sign that begins no escape stands for itself, and does not make reading fail. -/
  lenient : ∀ front back first second, ¬ BeginsEscape (Bytes.ofText ("%" ++ back)) →
    StandsFor (Bytes.ofText front) (Bytes.ofText first) →
    StandsFor (Bytes.ofText back) (Bytes.ofText second) →
    decode? (front ++ "%" ++ back) = some (strip (first ++ "%" ++ second))

theorem coded_encode (text : String) : Percent.Coded (encode text).toList := by
  unfold encode
  split
  · rw [String.toList_append]
    exact .unreserved (.inr (by decide)) (Percent.coded_encode text)
  · exact Percent.coded_encode text

theorem decode?_eq_none_iff {segment : String} : decode? segment = none ↔
    ∃ bytes, StandsFor (Bytes.ofText segment) bytes ∧ ¬ bytes.toByteArray.IsValidUTF8 := by
  simp only [← Percent.decode_eq_iff, exists_eq_left', ← Bytes.toText?_eq_none_iff, decode?,
    Option.map_eq_none_iff]

/-- Segments are a safe code. -/
theorem safeCode : SafeCode where
  reads := decode?_encode
  injective := by
    intro first second same
    have read := congrArg decode? same
    rw [decode?_encode, decode?_encode] at read
    exact Option.some.inj read
  coded := coded_encode
  whole := by
    intro text char separator member
    have written := isWritten_of_mem_encode member
    simp only [List.mem_cons, List.not_mem_nil, or_false] at separator
    rcases separator with rfl | rfl | rfl <;> exact absurd written (by decide)
  empty := by
    intro text nothing
    have read := decode?_encode text
    rw [nothing] at read
    exact (Option.some.inj read).symm
  dots := by
    intro text dots isDots
    have each : ∀ dots ∈ [".", ".."], Percent.decode (Bytes.ofText dots) = Bytes.ofText dots ∧
        [[46], [46, 46]].contains (Bytes.ofText dots) = true := by decide +kernel
    have apart : ¬ StandsFor (Bytes.ofText (encode text)) (Bytes.ofText dots) := by
      rw [← Percent.decode_eq_iff]
      intro same
      have reads := isDots_encode text
      rw [Url.isDots, String.ofList_toList, same, (each dots isDots).2] at reads
      cases reads
    refine ⟨?_, apart⟩
    rintro same
    rw [same, ← Percent.decode_eq_iff] at apart
    exact apart (each dots isDots).1
  unread _ := decode?_eq_none_iff
  lenient := by
    intro front back first second stray stands stands'
    rw [Bytes.ofText_append] at stray
    have whole : Percent.decode (Bytes.ofText (front ++ "%" ++ back)) =
        Bytes.ofText (first ++ "%" ++ second) := by
      rw [Percent.decode_eq_iff, String.append_assoc, String.append_assoc, Bytes.ofText_append,
        Bytes.ofText_append first, Bytes.ofText_append "%", Bytes.ofText_append "%"]
      exact stands.append (.plain stray stands')
    rw [decode?, whole, Bytes.toText?_ofText, Option.map_some]

/-- A truncated escape stands for itself, behind one that is complete. -/
example : decode? "%41%4" = some "A%4" := by
  decide +kernel

end Segment

end PeerCache
