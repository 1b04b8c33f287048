import PeerCache.Proofs.Http.Addresses

/-! # Paths that are left alone

Whoever takes an address apart may drop a segment that means the directory it stands in or the one
above it, whether its dots are escaped or not. Of a path without such segments, in which everything
is unreserved or escaped, nothing is changed. The path that is made of a group and a key is of this
kind, whatever they contain, if the base path is: everything that needs it is escaped, and a tilde
stands in front of the dots.
-/

namespace PeerCache

namespace Url

/-- Whether a text consists of unreserved characters and of complete escapes. -/
def isSegment : List Char → Bool
  | '%' :: high :: low :: rest =>
    (Hex.value? high.toNat).isSome && (Hex.value? low.toNat).isSome && isSegment rest
  | char :: rest => (char.isAlphanum || "-._~".toList.contains char) && isSegment rest
  | [] => true

/-- Whether a segment reads as one dot or as two. -/
def isDots (segment : List Char) : Bool :=
  [[46], [46, 46]].contains (Percent.decode (Bytes.ofText (String.ofList segment)))

/-- A reader of addresses: what it takes them apart into, and which segments of a path it drops. -/
structure Reader where
  parse : String → Url
  drops : List Char → Bool

/-- Nothing in a path is to be escaped, and no segment of it is dropped. -/
structure IsKept (drops : List Char → Bool) (path : String) : Prop where
  starts : path.toList.head? = some '/'
  segments : ∀ segment ∈ path.toList.splitOn '/', isSegment segment = true ∧ drops segment = false

/-- A reader finds the host behind the base of an address, and leaves the path alone if it can be
kept. Only dots are dropped. -/
structure Reader.Fits (reader : Reader) (base host : String) : Prop where
  dots : ∀ segment, reader.drops segment = true → isDots segment = true
  parses : ∀ path, IsKept reader.drops path → reader.parse (base ++ path) = .http host path

/-! ## Segments -/

private theorem isSegment_cons {char : Char} (plain : char ≠ '%') (rest : List Char) :
    isSegment (char :: rest) =
      ((char.isAlphanum || "-._~".toList.contains char) && isSegment rest) := by
  match rest with
  | [] => simp [isSegment]
  | [_] => simp [isSegment]
  | _ :: _ :: _ => simp [isSegment, plain]

/-- The written form of a byte stands in front of a segment like any character of it. -/
theorem isSegment_encodeByte (byte : UInt8) (rest : List Char) :
    isSegment (Percent.encodeByte byte ++ rest) = isSegment rest := by
  unfold Percent.encodeByte
  split
  case isTrue unreserved =>
    have known : Char.ofNat byte.toNat ≠ '%' ∧ ((Char.ofNat byte.toNat).isAlphanum ||
        "-._~".toList.contains (Char.ofNat byte.toNat)) = true :=
      Percent.forall_byte (p := fun byte => Percent.isUnreserved byte = true →
        Char.ofNat byte.toNat ≠ '%' ∧ ((Char.ofNat byte.toNat).isAlphanum ||
          "-._~".toList.contains (Char.ofNat byte.toNat)) = true)
        (by decide +kernel) byte unreserved
    rw [List.singleton_append, isSegment_cons known.1, known.2, Bool.true_and]
  case isFalse =>
    have digits : (Hex.value? (Hex.upperDigit (byte.toNat / 16)).toNat).isSome = true ∧
        (Hex.value? (Hex.upperDigit (byte.toNat % 16)).toNat).isSome = true :=
      Percent.forall_byte (p := fun byte =>
        (Hex.value? (Hex.upperDigit (byte.toNat / 16)).toNat).isSome = true ∧
          (Hex.value? (Hex.upperDigit (byte.toNat % 16)).toNat).isSome = true)
        (by decide +kernel) byte
    rw [Percent.escape, List.cons_append, List.cons_append, List.singleton_append, isSegment,
      digits.1, digits.2, Bool.true_and, Bool.true_and]

private theorem isSegment_percentEncode (text : String) :
    isSegment (Percent.encode text).toList = true := by
  rw [Percent.encode, String.toList_ofList]
  induction Bytes.ofText text with
  | nil => rfl
  | cons byte rest ih => rw [List.flatMap_cons, isSegment_encodeByte, ih]

theorem isSegment_encode (text : String) : isSegment (Segment.encode text).toList = true := by
  unfold Segment.encode
  split
  · rw [String.toList_append, show "~".toList = ['~'] from rfl, List.singleton_append,
      isSegment_cons (by decide), isSegment_percentEncode]
    decide
  · exact isSegment_percentEncode text

end Url

namespace Segment

/-- No segment reads as dots. -/
theorem isDots_encode (text : String) : Url.isDots (encode text).toList = false := by
  have read : ∀ dots, Bytes.ofText text = Bytes.ofText dots → text = dots := by
    intro dots same
    have read := congrArg Bytes.toText? same
    rw [Bytes.toText?_ofText, Bytes.toText?_ofText] at read
    exact Option.some.inj read
  rw [Url.isDots, String.ofList_toList, decode_encode]
  split
  case isTrue => simp
  case isFalse unguarded =>
    by_contra dots
    rw [Bool.not_eq_false, List.contains_iff_mem, List.mem_cons, List.mem_singleton] at dots
    rcases dots with one | two
    · exact unguarded (by rw [read "." one]; decide)
    · exact unguarded (by rw [read ".." two]; decide)

end Segment

namespace Url

/-- The path of a group and a key under a base path that is kept is kept, whatever they are. -/
theorem IsKept.append {reader : Reader} {base host basePath : String}
    (fits : reader.Fits base host) (kept : IsKept reader.drops basePath)
    (ends : basePath.toList.getLast? = some '/') (name key : String) :
    IsKept reader.drops (basePath ++ Segment.encode name ++ "/" ++ Segment.encode key) := by
  obtain ⟨front, whole⟩ := List.getLast?_eq_some_iff.mp ends
  have text : (basePath ++ Segment.encode name ++ "/" ++ Segment.encode key).toList =
      front ++ '/' :: ((Segment.encode name).toList ++ '/' :: (Segment.encode key).toList) := by
    simp [whole]
  have single : ∀ text,
      (Segment.encode text).toList.splitOn '/' = [(Segment.encode text).toList] := by
    intro text
    refine List.splitOn_eq_singleton fun member => ?_
    exact absurd (Segment.isWritten_of_mem_encode member) (by decide)
  have written : ∀ text, isSegment (Segment.encode text).toList = true ∧
      reader.drops (Segment.encode text).toList = false := by
    intro text
    refine ⟨isSegment_encode text, ?_⟩
    by_contra dropped
    have dots := fits.dots _ (by simpa using dropped)
    rw [Segment.isDots_encode] at dots
    cases dots
  constructor
  · rw [String.append_assoc, String.append_assoc, String.toList_append, List.head?_append,
      kept.starts, Option.some_or]
  · intro segment member
    rw [text, List.splitOn_append_cons_self, List.splitOn_append_cons_self, single,
      single] at member
    rcases List.mem_append.mp member with early | late
    · have inside : segment ∈ basePath.toList.splitOn '/' := by
        rw [whole, List.splitOn_append_cons_self]
        exact List.mem_append_left _ early
      exact kept.segments segment inside
    · rw [List.singleton_append, List.mem_cons, List.mem_singleton] at late
      rcases late with rfl | rfl
      · exact written name
      · exact written key

/-! ## The reader of addresses of this library -/

private theorem isWritten_of_isSegment {segment : List Char} (known : isSegment segment = true) :
    ∀ char ∈ segment, Percent.isWritten char = true := by
  have digit : ∀ char : Char, (Hex.value? char.toNat).isSome = true →
      Percent.isWritten char = true := by
    intro char known
    have each : ∀ code < 128, (Hex.value? code).isSome = true →
        Percent.isWritten (Char.ofNat code) = true := by decide +kernel
    have small : char.toNat < 128 := by
      by_contra large
      simp only [Hex.value?] at known
      split_ifs at known <;> first | omega | simp at known
    simpa using each char.toNat small known
  have unreserved : ∀ char : Char, (char.isAlphanum || "-._~".toList.contains char) = true →
      Percent.isWritten char = true := by
    intro char known
    rw [Bool.or_eq_true] at known
    rw [Percent.isWritten, Bool.or_eq_true]
    refine known.imp_right fun marked => ?_
    rw [List.contains_iff_mem] at marked ⊢
    exact List.mem_append_left ['%'] marked
  fun_induction isSegment segment with
  | case1 high low rest ih =>
    simp only [Bool.and_eq_true] at known
    intro char member
    simp only [List.mem_cons] at member
    rcases member with rfl | rfl | rfl | later
    · decide
    · exact digit _ known.1.1
    · exact digit _ known.1.2
    · exact ih known.2 char later
  | case2 first rest _ ih =>
    rw [Bool.and_eq_true] at known
    intro char member
    rcases List.mem_cons.mp member with rfl | later
    · exact unreserved _ known.1
    · exact ih known.2 char later
  | case3 => simp

private theorem exists_segment {path : List Char} {char : Char} (member : char ∈ path)
    (other : char ≠ '/') : ∃ segment ∈ path.splitOn '/', char ∈ segment := by
  induction path with
  | nil => cases member
  | cons first rest ih =>
    rw [List.splitOn_cons_eq_if_modifyHead]
    split
    case isTrue slash =>
      obtain rfl : first = '/' := by simpa using slash
      rcases List.mem_cons.mp member with same | later
      · exact absurd same other
      · obtain ⟨segment, inside, found⟩ := ih later
        exact ⟨segment, List.mem_cons_of_mem _ inside, found⟩
    case isFalse =>
      obtain ⟨head, tail, parts⟩ := List.exists_cons_of_ne_nil (List.splitOn_ne_nil '/' rest)
      rw [parts, List.modifyHead_cons]
      rcases List.mem_cons.mp member with rfl | later
      · exact ⟨_, List.mem_cons_self, List.mem_cons_self⟩
      · obtain ⟨segment, inside, found⟩ := ih later
        rw [parts] at inside
        rcases List.mem_cons.mp inside with rfl | behind
        · exact ⟨_, List.mem_cons_self, List.mem_cons_of_mem _ found⟩
        · exact ⟨segment, List.mem_cons_of_mem _ behind, found⟩

theorem IsKept.isPlainPath {drops : List Char → Bool} {path : String} (kept : IsKept drops path) :
    isPlainPath path.toList = true := by
  rw [Url.isPlainPath, kept.starts, Bool.and_eq_true, List.all_eq_true]
  refine ⟨by simp, fun char member => ?_⟩
  by_cases slash : char = '/'
  · simp [slash]
  · obtain ⟨segment, inside, found⟩ := exists_segment member slash
    rw [isWritten_of_isSegment (kept.segments segment inside).1 char found, Bool.true_or]

/-- The reader of this library drops nothing, and so could be one that drops dots. -/
def reader : Reader := ⟨parse, isDots⟩

theorem parse_reader : reader.parse = parse :=
  rfl

theorem fits_reader {host : String} (known : isPlainHost host.toList = true) :
    reader.Fits ("http://" ++ host) host where
  dots _ drops := drops
  parses path kept := by
    rw [parse_reader]
    exact parse_plain known kept.isPlainPath

end Url

end PeerCache
