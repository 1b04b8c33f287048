import PeerCache.Http.FrontApi
import PeerCache.Proofs.Http.Escapes

/-! # Queries are read back

Whoever writes pairs of texts into a query has some choice: escapes are written in either case, a
space may be written as a plus sign, and parts may be left empty. Whatever is chosen, the pairs are
read back, so that the value of a name is that of the first pair which has it.
-/

namespace PeerCache

namespace Bytes

private theorem ofText_ofList (chars : List Char) :
    ofText (String.ofList chars) = chars.flatMap String.utf8EncodeChar := by
  simp [ofText, List.utf8Encode]

private theorem headChar_append (char : Char) (rest : Bytes) :
    headChar (String.utf8EncodeChar char ++ rest) = (char, char.utf8Size) := by
  have whole : (String.utf8EncodeChar char).length ≤ 4 := by
    rw [String.length_utf8EncodeChar]
    exact char.utf8Size_le_four
  rw [headChar, List.take_append, List.take_of_length_le whole, List.toByteArray_append,
    ByteArray.utf8DecodeChar?_utf8EncodeChar_append]

private theorem readable_append {skip : Nat} {passed : Bytes} (length : passed.length = skip)
    (rest : Bytes) : readable skip (passed ++ rest) = readable 0 rest := by
  induction skip generalizing passed with
  | zero => rw [List.length_eq_zero_iff.mp length, List.nil_append]
  | succ skip ih =>
    obtain ⟨byte, passed, rfl⟩ := List.exists_cons_of_length_eq_add_one length
    exact ih (Nat.succ.inj length)

/-- UTF-8 is shown as the text that it encodes. -/
theorem toTextLossy_ofText (text : String) : toTextLossy (ofText text) = text := by
  rw [← String.toList_inj, toTextLossy, String.toList_ofList]
  conv_lhs => rw [← String.ofList_toList (s := text), ofText_ofList]
  induction text.toList with
  | nil => rfl
  | cons char rest ih =>
    rw [List.flatMap_cons]
    obtain ⟨first, later, encoded⟩ :=
      List.exists_cons_of_ne_nil (String.utf8EncodeChar_ne_nil (c := char))
    have length : later.length = char.utf8Size - 1 := by
      rw [← String.length_utf8EncodeChar, encoded]
      rfl
    have shown := headChar_append char (rest.flatMap String.utf8EncodeChar)
    rw [encoded, List.cons_append] at shown ⊢
    rw [readable, shown]
    dsimp only
    rw [readable_append length, ih]

theorem ofAscii_append (first second : List Char) :
    ofAscii (first ++ second) = ofAscii first ++ ofAscii second := List.map_append

end Bytes

namespace Query

/-- A character that may occur in a name or a value as it is written. -/
def Admits (char : Char) : Prop := char.isAlphanum = true ∨ char = '%' ∨ char = '+'

/-- The ways in which bytes may be written in a query. -/
inductive Writes : Bytes → List Char → Prop
  | nil : Writes [] []
  /-- A letter or a digit stands for itself. -/
  | plain {byte : UInt8} {rest : Bytes} {written : List Char}
      (plain : (Char.ofNat byte.toNat).isAlphanum = true) (later : Writes rest written) :
      Writes (byte :: rest) (Char.ofNat byte.toNat :: written)
  /-- Two digits in either case stand for any byte. -/
  | escape {byte : UInt8} {rest : Bytes} {high low : Char} {written : List Char}
      (first : Hex.IsDigit high (byte.toNat / 16)) (second : Hex.IsDigit low (byte.toNat % 16))
      (later : Writes rest written) : Writes (byte :: rest) ('%' :: high :: low :: written)
  /-- A plus sign stands for a space. -/
  | space {rest : Bytes} {written : List Char} (later : Writes rest written) :
      Writes (32 :: rest) ('+' :: written)

/-- The ways in which pairs of a name and a value may be written as the parts of a query. -/
inductive Parts : List (String × String) → List (List Char) → Prop
  | nil : Parts [] []
  | empty {pairs : List (String × String)} {parts : List (List Char)} (later : Parts pairs parts) :
      Parts pairs ([] :: parts)
  | pair {name value : String} {written written' : List Char} {pairs : List (String × String)}
      {parts : List (List Char)} (first : Writes (Bytes.ofText name) written)
      (second : Writes (Bytes.ofText value) written') (later : Parts pairs parts) :
      Parts ((name, value) :: pairs) ((written ++ '=' :: written') :: parts)

/-- A query is made of pairs. -/
def Carries (query : String) (pairs : List (String × String)) : Prop :=
  ∃ parts, Parts pairs parts ∧ query = String.ofList (['&'].intercalate parts)

/-- The value of the first pair of a name, empty if there is none. -/
inductive First (name : String) : List (String × String) → String → Prop
  | none : First name [] ""
  | here (value : String) (rest : List (String × String)) : First name ((name, value) :: rest) value
  | later {other value value' : String} {rest : List (String × String)} (distinct : other ≠ name)
      (later : First name rest value) : First name ((other, value') :: rest) value

variable {query name : String} {pairs : List (String × String)} {parts : List (List Char)}
  {bytes : Bytes} {written written' : List Char} {char : Char}

/-! ## Names and values -/

theorem Writes.admits (writes : Writes bytes written) : ∀ char ∈ written, Admits char := by
  have digit : ∀ {char value}, Hex.IsDigit char value → char.isAlphanum = true :=
    Hex.forall_digit (p := fun char _ => char.isAlphanum = true) (by decide +kernel)
  induction writes with
  | nil => simp
  | plain plain later ih => exact List.forall_mem_cons.mpr ⟨.inl plain, ih⟩
  | escape first second later ih =>
    simp only [List.forall_mem_cons]
    exact ⟨.inr (.inl rfl), .inl (digit first), .inl (digit second), ih⟩
  | space later ih => exact List.forall_mem_cons.mpr ⟨.inr (.inr rfl), ih⟩

/-- What may occur is one byte, and parts neither a name from a value nor a pair from the next. -/
theorem Admits.ascii (admits : Admits char) :
    char.toNat ≤ 127 ∧ UInt8.ofNat char.toNat ≠ 38 ∧ UInt8.ofNat char.toNat ≠ 61 := by
  have small : char.toNat < 128 := by
    rcases admits with alphanumeric | rfl | rfl
    · simp only [Char.isAlphanum, Char.isAlpha, Char.isUpper, Char.isLower, Char.isDigit,
        Bool.or_eq_true, Bool.and_eq_true, decide_eq_true_eq, UInt32.le_iff_toNat_le, ge_iff_le]
        at alphanumeric
      change ((65 ≤ char.toNat ∧ char.toNat ≤ 90) ∨ (97 ≤ char.toNat ∧ char.toNat ≤ 122)) ∨
        (48 ≤ char.toNat ∧ char.toNat ≤ 57) at alphanumeric
      omega
    · decide
    · decide
  have each : ∀ code < 128, Admits (Char.ofNat code) →
      UInt8.ofNat code ≠ 38 ∧ UInt8.ofNat code ≠ 61 := by
    unfold Admits
    decide +kernel
  refine ⟨by omega, each char.toNat small ?_⟩
  rwa [Char.ofNat_toNat]

/-- What is written for bytes is read as these bytes. -/
theorem Writes.read (writes : Writes bytes written) :
    Percent.decode ((Bytes.ofAscii written).map fun byte => if byte = 43 then 32 else byte) =
      bytes := by
  have digit : ∀ {char value}, Hex.IsDigit char value → UInt8.ofNat char.toNat ≠ 43 ∧
      Percent.Digit (UInt8.ofNat char.toNat) value := by
    simp only [← Percent.value?_eq_some_iff]
    exact Hex.forall_digit (p := fun char value => UInt8.ofNat char.toNat ≠ 43 ∧
      Hex.value? (UInt8.ofNat char.toNat).toNat = some value) (by decide +kernel)
  induction writes with
  | nil => rfl
  | @plain byte rest written plain later ih =>
    have itself : UInt8.ofNat (Char.ofNat byte.toNat).toNat = byte ∧ byte ≠ 43 ∧ byte ≠ 37 :=
      Percent.forall_byte (p := fun byte => (Char.ofNat byte.toNat).isAlphanum = true →
        UInt8.ofNat (Char.ofNat byte.toNat).toNat = byte ∧ byte ≠ 43 ∧ byte ≠ 37)
        (by decide +kernel) byte plain
    rw [Bytes.ofAscii, List.map_cons, List.map_cons, itself.1, if_neg itself.2.1,
      Percent.decode_cons itself.2.2]
    exact congrArg _ ih
  | @escape byte rest high low written first second later ih =>
    have stands : Percent.byte? (UInt8.ofNat high.toNat) (UInt8.ofNat low.toNat) = some byte := by
      refine Percent.byte?_eq_some_iff.mpr ⟨_, _, (digit first).2, (digit second).2, ?_⟩
      rw [Nat.div_add_mod, UInt8.ofNat_toNat]
    simp only [Bytes.ofAscii, List.map_cons, if_neg (digit first).1, if_neg (digit second).1]
    exact (Percent.decode_escape stands _).trans (congrArg _ ih)
  | @space rest written later ih =>
    rw [Bytes.ofAscii, List.map_cons, List.map_cons]
    exact (Percent.decode_cons (by decide) _).trans (congrArg _ ih)

/-- A text is read as it was written. -/
theorem Writes.decode {text : String} (writes : Writes (Bytes.ofText text) written) :
    decode (Bytes.ofAscii written) = text := by
  rw [Query.decode, writes.read, Bytes.toTextLossy_ofText]

private theorem nameAndValue_join (admits : ∀ char ∈ written, Admits char) :
    nameAndValue (Bytes.ofAscii (written ++ '=' :: written')) =
      (Bytes.ofAscii written, Bytes.ofAscii written') := by
  have front : ∀ byte ∈ Bytes.ofAscii written, (byte != 61) = true := by
    intro byte listed
    obtain ⟨char, member, rfl⟩ := List.mem_map.mp listed
    exact bne_iff_ne.mpr (admits char member).ascii.2.2
  have joined : Bytes.ofAscii (written ++ '=' :: written') =
      Bytes.ofAscii written ++ 61 :: Bytes.ofAscii written' := by
    rw [Bytes.ofAscii_append]
    rfl
  rw [nameAndValue, joined, List.takeWhile_append_of_pos front, List.dropWhile_append_of_pos front]
  simp

/-! ## Queries -/

private theorem Parts.admits (parts' : Parts pairs parts) :
    ∀ part ∈ parts, ∀ char ∈ part, Admits char ∨ char = '=' := by
  induction parts' with
  | nil => simp
  | empty later ih => exact List.forall_mem_cons.mpr ⟨by simp, ih⟩
  | pair first second later ih =>
    refine List.forall_mem_cons.mpr ⟨?_, ih⟩
    intro char member
    rcases List.mem_append.mp member with inName | inValue
    · exact .inl (first.admits char inName)
    · rcases List.mem_cons.mp inValue with rfl | inValue
      · exact .inr rfl
      · exact .inl (second.admits char inValue)

private theorem Parts.ascii (parts' : Parts pairs parts) {part : List Char} (member : part ∈ parts)
    (inPart : char ∈ part) : char.toNat ≤ 127 ∧ UInt8.ofNat char.toNat ≠ 38 := by
  rcases parts'.admits part member char inPart with admits | rfl
  · exact ⟨admits.ascii.1, admits.ascii.2.1⟩
  · decide

/-- The parts of a query are read as the pairs that they were written for. -/
theorem Parts.read (parts' : Parts pairs parts) :
    (((parts.map Bytes.ofAscii).filter fun part => !part.isEmpty).map fun part =>
      let (name, value) := nameAndValue part
      (decode name, decode value)) = pairs := by
  induction parts' with
  | nil => rfl
  | empty later ih => exact ih
  | @pair name value written written' pairs parts first second later ih =>
    have full : (!(Bytes.ofAscii (written ++ '=' :: written')).isEmpty) = true := by
      simp [Bytes.ofAscii]
    rw [List.map_cons, List.filter_cons, if_pos full, List.map_cons,
      nameAndValue_join first.admits]
    exact congrArg₂ _ (Prod.ext first.decode second.decode) ih

private theorem ofAscii_intercalate (parts : List (List Char)) :
    Bytes.ofAscii (['&'].intercalate parts) = [38].intercalate (parts.map Bytes.ofAscii) := by
  induction parts with
  | nil => rfl
  | cons part rest ih =>
    cases rest with
    | nil => simp [List.intercalate]
    | cons next rest =>
      rw [List.intercalate_cons_cons, List.map_cons, List.map_cons, List.intercalate_cons_cons,
        Bytes.ofAscii_append, Bytes.ofAscii_append, ih]
      rfl

private theorem mem_of_mem_intercalate (member : char ∈ ['&'].intercalate parts) :
    char = '&' ∨ ∃ part ∈ parts, char ∈ part := by
  induction parts with
  | nil => cases member
  | cons part rest ih =>
    cases rest with
    | nil => exact .inr ⟨part, List.mem_cons_self .., by simpa [List.intercalate] using member⟩
    | cons next rest =>
      rw [List.intercalate_cons_cons, List.mem_append, List.mem_append,
        List.mem_singleton] at member
      rcases member with (inPart | rfl) | later
      · exact .inr ⟨part, List.mem_cons_self .., inPart⟩
      · exact .inl rfl
      · exact (ih later).imp_right fun ⟨part, member, inPart⟩ =>
          ⟨part, List.mem_cons_of_mem _ member, inPart⟩

/-- The pairs that a query carries are read back. -/
theorem pairs_of_carries (carries : Carries query pairs) : Query.pairs query = pairs := by
  obtain ⟨parts, parts', rfl⟩ := carries
  have ascii : ∀ char ∈ ['&'].intercalate parts, char.toNat ≤ 127 := by
    intro char member
    rcases mem_of_mem_intercalate member with rfl | ⟨part, member, inPart⟩
    · decide
    · exact (parts'.ascii member inPart).1
  rw [Query.pairs, Bytes.ofText_of_ascii ascii, ofAscii_intercalate]
  rcases parts.eq_nil_or_concat with rfl | ⟨_, _, nonempty⟩
  · cases parts'
    rfl
  · have whole : ∀ part ∈ parts.map Bytes.ofAscii, 38 ∉ part := by
      intro part listed inside
      obtain ⟨chars, member, rfl⟩ := List.mem_map.mp listed
      obtain ⟨char, inPart, same⟩ := List.mem_map.mp inside
      exact (parts'.ascii member inPart).2 same
    rw [List.splitOn_intercalate 38 whole (by simp [nonempty])]
    exact parts'.read

theorem first_value (name query : String) :
    First name (Query.pairs query) (value name query) := by
  rw [value]
  induction Query.pairs query with
  | nil => exact .none
  | cons pair rest ih =>
    obtain ⟨other, value⟩ := pair
    by_cases same : other = name
    · subst same
      rw [List.lookup_cons_self]
      exact .here value rest
    · rw [List.lookup_cons, beq_false_of_ne (Ne.symm same)]
      exact .later same ih

end Query

end PeerCache
