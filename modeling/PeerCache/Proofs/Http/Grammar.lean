import PeerCache.Proofs.Http.Addresses

/-! # The grammar of a peer server

What a peer server takes is said here without the way in which it looks for it: a path is the base
path and two segments with a slash between them, and a segment stands for a text if its bytes are
those of the text, behind one tilde or, where the text starts with none, without. A path has at most
one such reading, because the slash is looked for before any escape is read. A request that is not
taken is refused for the first thing that is wrong with it.
-/

namespace PeerCache

namespace Bytes

/-- Bytes are read as a text if they are its bytes. -/
theorem toText?_eq_some_iff {bytes : Bytes} {text : String} :
    toText? bytes = some text ↔ bytes = ofText text := by
  constructor
  · intro read
    unfold toText? String.fromUTF8? at read
    split at read
    · cases read
      simp [ofText, String.fromUTF8]
    · cases read
  · rintro rfl
    exact toText?_ofText text

end Bytes

namespace Segment

/-- A segment stands for a text, which a tilde in front guards or need not guard. -/
def Reads (segment text : String) : Prop :=
  Percent.decode (Bytes.ofText segment) = Bytes.ofText ("~" ++ text) ∨
    Percent.decode (Bytes.ofText segment) = Bytes.ofText text ∧ text.toList.head? ≠ some '~'

/-- A segment is UTF-8 once its escapes are read. -/
def IsText (segment : String) : Prop :=
  ∃ text, Percent.decode (Bytes.ofText segment) = Bytes.ofText text

variable {segment text : String}

private theorem strip_eq_iff {whole : String} :
    strip whole = text ↔ whole = "~" ++ text ∨ whole = text ∧ text.toList.head? ≠ some '~' := by
  unfold strip
  split
  case h_1 rest starts =>
    have guarded : whole = "~" ++ String.ofList rest := by
      rw [← String.toList_inj, starts]
      simp
    constructor
    · rintro rfl
      exact .inl guarded
    · rintro (whole_eq | ⟨rfl, unguarded⟩)
      · simpa [guarded] using whole_eq
      · simp [starts] at unguarded
  case h_2 unguarded =>
    have other : whole.toList.head? ≠ some '~' := by
      intro starts
      obtain ⟨rest, whole_eq⟩ := List.head?_eq_some_iff.mp starts
      exact unguarded rest whole_eq
    constructor
    · rintro rfl
      exact .inr ⟨rfl, other⟩
    · rintro (rfl | ⟨rfl, -⟩)
      · simp at other
      · rfl

/-- What is read of a segment is the text that it stands for. -/
theorem decode?_eq_some_iff : decode? segment = some text ↔ Reads segment text := by
  simp only [decode?, Option.map_eq_some_iff, Bytes.toText?_eq_some_iff, strip_eq_iff, Reads]
  constructor
  · rintro ⟨whole, bytes, rfl | ⟨rfl, unguarded⟩⟩
    · exact .inl bytes
    · exact .inr ⟨bytes, unguarded⟩
  · rintro (bytes | ⟨bytes, unguarded⟩)
    · exact ⟨_, bytes, .inl rfl⟩
    · exact ⟨_, bytes, .inr ⟨rfl, unguarded⟩⟩

private theorem exists_reads_iff : (∃ text, Reads segment text) ↔ IsText segment := by
  simp only [← decode?_eq_some_iff, IsText, ← Bytes.toText?_eq_some_iff, decode?,
    Option.map_eq_some_iff]
  constructor
  · rintro ⟨text, whole, read, -⟩
    exact ⟨whole, read⟩
  · rintro ⟨whole, read⟩
    exact ⟨strip whole, whole, read, rfl⟩

end Segment

namespace PeerRoutes

/-- A path is the base path and two segments. -/
structure Splits (basePath path first second : String) : Prop where
  path_eq : path = basePath ++ first ++ "/" ++ second
  first_whole : '/' ∉ first.toList
  second_whole : '/' ∉ second.toList

/-- A path asks for a key of a group. -/
def Names (basePath path name key : String) : Prop :=
  ∃ first second, Splits basePath path first second ∧
    Segment.Reads first name ∧ Segment.Reads second key

/-- What is answered to a request that is not taken, for the first thing that is wrong with it. -/
inductive Refused {γ : Type} (basePath : String) (find? : String → Option γ) (request : Request) :
    Response → Prop
  | method (other : request.method ≠ "GET") :
      Refused basePath find? request (.text 405 "method not allowed")
  | path (get : request.method = "GET") (outside : ∀ rest, request.path ≠ basePath ++ rest) :
      Refused basePath find? request (.text 404 ("unexpected path: " ++ request.path))
  /-- There are not two segments, or one of them is not UTF-8. -/
  | segments (get : request.method = "GET") (rest : String)
      (under : request.path = basePath ++ rest)
      (malformed : ∀ first second, Splits basePath request.path first second →
        ¬ Segment.IsText first ∨ ¬ Segment.IsText second) :
      Refused basePath find? request (.text 400 "bad request")
  | group (get : request.method = "GET") (name key : String)
      (names : Names basePath request.path name key) (unknown : find? name = none) :
      Refused basePath find? request (.text 404 ("no such group: " ++ name))

section

variable {γ : Type} {basePath path name key : String} {rest first second : List Char}
  {find? : String → Option γ} {request : Request} {response : Response}

/-- What is under the base path is what follows it. -/
theorem underBase?_eq_some_iff :
    underBase? basePath path = some rest ↔ path = basePath ++ String.ofList rest := by
  constructor
  · intro under
    unfold underBase? at under
    split at under
    case isTrue starts =>
      cases under
      obtain ⟨rest, whole⟩ := List.isPrefixOf_iff_prefix.mp starts
      rw [← String.toList_inj, String.toList_append, String.toList_ofList, ← whole,
        ← String.length_toList, List.drop_left]
    case isFalse => cases under
  · rintro rfl
    rw [underBase?_append, String.toList_ofList]

/-- Two pieces come of a split at a character if it occurs once, between them. -/
theorem splitOn_eq_pair_iff {text : List Char} {mark : Char} :
    text.splitOn mark = [first, second] ↔
      text = first ++ mark :: second ∧ mark ∉ first ∧ mark ∉ second := by
  constructor
  · intro split
    have marked : mark ∈ text := by
      by_contra whole
      simp [List.splitOn_eq_singleton whole] at split
    obtain ⟨front, back, rfl, whole⟩ := List.eq_append_cons_of_mem marked
    rw [List.splitOn_append_cons_self_of_not_mem whole, List.cons.injEq] at split
    obtain ⟨rfl, split⟩ := split
    have unmarked : mark ∉ back := by
      intro again
      obtain ⟨middle, last, rfl, whole'⟩ := List.eq_append_cons_of_mem again
      rw [List.splitOn_append_cons_self_of_not_mem whole', List.cons.injEq] at split
      exact List.splitOn_ne_nil mark last split.2
    rw [List.splitOn_eq_singleton unmarked, List.cons.injEq] at split
    obtain ⟨rfl, -⟩ := split
    exact ⟨rfl, whole, unmarked⟩
  · rintro ⟨rfl, whole, whole'⟩
    rw [List.splitOn_append_cons_self_of_not_mem whole, List.splitOn_eq_singleton whole']

/-- The group and the key that are found under a base path are those that the path asks for. -/
theorem groupAndKey?_eq_some_iff (basePath : String) :
    groupAndKey? rest = some (name, key) ↔
      Names basePath (basePath ++ String.ofList rest) name key := by
  have splits : ∀ first second : String,
      Splits basePath (basePath ++ String.ofList rest) first second ↔
        rest.splitOn '/' = [first.toList, second.toList] := by
    intro first second
    rw [splitOn_eq_pair_iff]
    have same : basePath ++ String.ofList rest = basePath ++ first ++ "/" ++ second ↔
        rest = first.toList ++ '/' :: second.toList := by
      rw [← String.toList_inj]
      simp
    constructor
    · rintro ⟨path_eq, whole, whole'⟩
      exact ⟨same.mp path_eq, whole, whole'⟩
    · rintro ⟨rest_eq, whole, whole'⟩
      exact ⟨same.mpr rest_eq, whole, whole'⟩
  simp only [Names, splits, ← Segment.decode?_eq_some_iff]
  constructor
  · intro found
    unfold groupAndKey? at found
    split at found
    case h_1 group last split =>
      obtain ⟨text, read, found⟩ := Option.bind_eq_some_iff.mp found
      obtain ⟨text', read', found⟩ := Option.bind_eq_some_iff.mp found
      cases found
      exact ⟨String.ofList group, String.ofList last, by simpa using split, read, read'⟩
    case h_2 => cases found
  · rintro ⟨group, last, split, read, read'⟩
    simp [groupAndKey?, split, read, read']

private theorem Names.found (names : Names basePath path name key) :
    ∃ rest, underBase? basePath path = some rest ∧ groupAndKey? rest = some (name, key) := by
  have ⟨first, second, splits, _⟩ := names
  have path_eq : path = basePath ++ String.ofList (first ++ "/" ++ second).toList := by
    rw [String.ofList_toList, splits.path_eq, String.append_assoc, String.append_assoc,
      String.append_assoc]
  refine ⟨_, underBase?_eq_some_iff.mpr path_eq, (groupAndKey?_eq_some_iff basePath).mpr ?_⟩
  rwa [← path_eq]

/-- A path under a base path names nothing if there are not two segments, or one is not UTF-8. -/
theorem malformed_iff :
    (∀ name key, ¬ Names basePath path name key) ↔
      ∀ first second, Splits basePath path first second →
        ¬ Segment.IsText first ∨ ¬ Segment.IsText second := by
  simp only [← Segment.exists_reads_iff]
  constructor
  · intro nothing first second splits
    by_contra both
    rw [not_or, not_not, not_not] at both
    obtain ⟨⟨name, reads⟩, key, reads'⟩ := both
    exact nothing name key ⟨first, second, splits, reads, reads'⟩
  · rintro malformed name key ⟨first, second, splits, reads, reads'⟩
    rcases malformed first second splits with unread | unread
    · exact unread ⟨name, reads⟩
    · exact unread ⟨key, reads'⟩

/-! ## Dispatch -/

/-- A request is for a group and a key if it is in the grammar and the group is known. -/
theorem dispatch_eq_ok_iff {group : γ} :
    dispatch basePath find? request = .ok (group, key) ↔
      request.method = "GET" ∧ ∃ name, Names basePath request.path name key ∧
        find? name = some group := by
  constructor
  · intro taken
    simp only [dispatch] at taken
    split_ifs at taken with other
    split at taken
    case h_1 => cases taken
    case h_2 rest under =>
      split at taken
      case h_1 => cases taken
      case h_2 name key' found =>
        split at taken
        case h_1 => cases taken
        case h_2 known =>
          cases taken
          refine ⟨not_not.mp other, name, ?_, known⟩
          rw [underBase?_eq_some_iff.mp under]
          exact (groupAndKey?_eq_some_iff basePath).mp found
  · rintro ⟨get, name, names, known⟩
    obtain ⟨rest, under, found⟩ := names.found
    simp only [dispatch, get, ne_eq, not_true_eq_false, if_false, under, found, known]

/-- Whatever is wrong with a request, it is not taken for that. -/
theorem Refused.refuses (refused : Refused basePath find? request response) :
    ∃ refusal, dispatch basePath find? request = .error refusal ∧ refusal.response = response := by
  cases refused with
  | method other => exact ⟨.methodNotAllowed, by simp only [dispatch, if_pos other], rfl⟩
  | path get outside =>
    have missing : underBase? basePath request.path = none := by
      by_contra under
      obtain ⟨rest, under⟩ := Option.ne_none_iff_exists'.mp under
      exact outside _ (underBase?_eq_some_iff.mp under)
    refine ⟨.unexpectedPath request.path, ?_, rfl⟩
    simp only [dispatch, get, ne_eq, not_true_eq_false, if_false, missing]
  | segments get rest under malformed =>
    have missing : groupAndKey? rest.toList = none := by
      by_contra found
      obtain ⟨⟨name, key⟩, found⟩ := Option.ne_none_iff_exists'.mp found
      rw [groupAndKey?_eq_some_iff basePath, String.ofList_toList, ← under] at found
      exact malformed_iff.mpr malformed name key found
    refine ⟨.badRequest, ?_, rfl⟩
    rw [← String.ofList_toList (s := rest)] at under
    simp only [dispatch, get, ne_eq, not_true_eq_false, if_false,
      underBase?_eq_some_iff.mpr under, missing]
  | group get name key names unknown =>
    obtain ⟨rest, under, found⟩ := names.found
    refine ⟨.unknownGroup name, ?_, rfl⟩
    simp only [dispatch, get, ne_eq, not_true_eq_false, if_false, under, found, unknown]

/-- What is answered to a request that is not taken names the first thing that is wrong with it. -/
theorem refused_of_dispatch {refusal : Refusal}
    (refuses : dispatch basePath find? request = .error refusal) :
    Refused basePath find? request refusal.response := by
  simp only [dispatch] at refuses
  split_ifs at refuses with other
  case pos =>
    cases refuses
    exact .method other
  case neg =>
    have get := not_not.mp other
    split at refuses
    case h_1 missing =>
      cases refuses
      refine .path get fun rest path_eq => ?_
      rw [path_eq, underBase?_append] at missing
      cases missing
    case h_2 rest under =>
      have path_eq := underBase?_eq_some_iff.mp under
      split at refuses
      case h_1 missing =>
        cases refuses
        refine .segments get _ path_eq (malformed_iff.mp fun name key names => ?_)
        rw [path_eq, ← groupAndKey?_eq_some_iff, missing] at names
        cases names
      case h_2 name key found =>
        split at refuses
        case h_1 unknown =>
          cases refuses
          rw [groupAndKey?_eq_some_iff basePath, ← path_eq] at found
          exact .group get name key found unknown
        case h_2 => cases refuses

/-- A request that is not taken is refused for the first thing that is wrong with it. -/
theorem refused_iff :
    Refused basePath find? request response ↔
      ∃ refusal, dispatch basePath find? request = .error refusal ∧
        refusal.response = response := by
  constructor
  · exact Refused.refuses
  · rintro ⟨refusal, refuses, rfl⟩
    exact refused_of_dispatch refuses

/-- An escaped slash is part of the name, and a tilde alone stands for the empty key. -/
example : dispatch "/_hint/" some ⟨"GET", "/_hint/a%2Fb/~", ""⟩ = .ok ("a/b", "") := by
  decide +kernel

end

end PeerRoutes

end PeerCache
