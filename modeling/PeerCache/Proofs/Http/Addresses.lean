import PeerCache.Cluster.Exchange
import PeerCache.Proofs.Http.Segments

/-! # Addresses that are asked unchanged

An address that is made of a host with its port and of a path is taken apart into just these, if the
path consists of segments and slashes. The request for such a path names the path and nothing else,
and the peer server whose base path it starts with finds in it the group and the key that the path
was made for.
-/

namespace PeerCache

namespace Percent

theorem isBlank_of_isWritten {char : Char} (written : isWritten char = true) :
    Url.isBlank char = false := by
  have each : ∀ code < 33, isWritten (Char.ofNat code) = false := by decide +kernel
  by_contra blank
  have small : char.toNat < 33 := by
    have small : char.toNat ≤ 32 := by simpa [Url.isBlank] using blank
    omega
  have unwritten := each char.toNat small
  rw [Char.ofNat_toNat, written] at unwritten
  cases unwritten

end Percent

namespace Url

/-- Whether a text is a host with a port that can stand in a request line as it is. -/
def isPlainHost (host : List Char) : Bool :=
  (Authority.ofText host).isHostAndPort && isSendable host &&
    host.all fun char => !endsKnownAuthority char && !isBlank char

/-- Whether a text is a path of segments. -/
def isPlainPath (path : List Char) : Bool :=
  path.head? == some '/' && path.all fun char => Percent.isWritten char || char == '/'

/-! ## Plain texts -/

private theorem forall_of_isPlainPath {p : Char → Prop} {path : List Char}
    (plain : isPlainPath path = true)
    (written : ∀ char, Percent.isWritten char = true → p char) (slash : p '/') :
    ∀ char ∈ path, p char := by
  simp only [isPlainPath, Bool.and_eq_true, List.all_eq_true, Bool.or_eq_true, beq_iff_eq] at plain
  intro char member
  rcases plain.2 char member with known | rfl
  · exact written char known
  · exact slash

private theorem ne_of_isPlainPath (mark : Char) (unwritten : Percent.isWritten mark = false)
    (other : mark ≠ '/') {path : List Char} (plain : isPlainPath path = true) :
    ∀ char ∈ path, (char != mark) = true := by
  refine forall_of_isPlainPath plain (fun char written => ?_) (by simpa using other.symm)
  rw [bne_iff_ne]
  rintro rfl
  exact absurd written (by simp [unwritten])

/-- A path that goes on with segments is a path. -/
theorem isPlainPath_append {path rest : List Char} (plain : isPlainPath path = true)
    (segments : ∀ char ∈ rest, Percent.isWritten char = true ∨ char = '/') :
    isPlainPath (path ++ rest) = true := by
  simp only [isPlainPath, Bool.and_eq_true, List.all_eq_true, Bool.or_eq_true, beq_iff_eq]
    at plain ⊢
  refine ⟨by simp [plain.1], fun char member => ?_⟩
  rcases List.mem_append.mp member with front | back
  · exact plain.2 char front
  · exact segments char back

/-! ## Taking addresses apart -/

private theorem significant_of_visible {text : List Char}
    (visible : ∀ char ∈ text, isBlank char = false) :
    significant text = text := by
  have kept : ∀ text : List Char, (∀ char ∈ text, isBlank char = false) →
      text.dropWhile isBlank = text := by
    intro text visible
    cases text with
    | nil => rfl
    | cons char rest => rw [List.dropWhile_cons_of_neg (by simp [visible char])]
  have unbroken : ∀ char ∈ text, (!isBreak char) = true := by
    intro char member
    have visible := visible char member
    rw [Bool.not_eq_true']
    by_contra broken
    simp only [isBreak, Bool.not_eq_false, Bool.or_eq_true, beq_iff_eq] at broken
    rcases broken with (rfl | rfl) | rfl <;> exact absurd visible (by decide)
  rw [significant, kept text visible, kept text.reverse (by simpa using visible),
    List.reverse_reverse, List.filter_eq_self.mpr unbroken]

private theorem ofHttp_plain {host path : List Char} (known : isPlainHost host = true)
    (plain : isPlainPath path = true) :
    ofHttp ('/' :: '/' :: (host ++ path)) = .http (String.ofList host) (String.ofList path) := by
  have whole := List.takeWhile_eq_self_iff.mpr
    (ne_of_isPlainPath '#' (by decide) (by decide) plain)
  simp only [isPlainHost, Bool.and_eq_true, List.all_eq_true, Bool.not_eq_true'] at known
  obtain ⟨⟨located, sendable⟩, inside⟩ := known
  have inside : ∀ char ∈ host, (!endsKnownAuthority char) = true := by
    intro char member
    simp [(inside char member).1]
  cases path with
  | nil => simp [isPlainPath] at plain
  | cons slash rest =>
    obtain rfl : slash = '/' := by
      simp only [isPlainPath, List.head?_cons, Bool.and_eq_true, beq_iff_eq, Option.some.injEq]
        at plain
      exact plain.1
    have taken : (host ++ '/' :: rest).takeWhile (!endsKnownAuthority ·) = host := by
      rw [List.takeWhile_append_of_pos inside]
      simp [endsKnownAuthority, endsAuthority]
    have dropped : (host ++ '/' :: rest).dropWhile (!endsKnownAuthority ·) = '/' :: rest := by
      rw [List.dropWhile_append_of_pos inside]
      simp [endsKnownAuthority, endsAuthority]
    rw [ofHttp]
    simp only [taken, dropped, located, sendable, whole, List.head?_cons]
    rfl

/-- An address of the scheme `http` is what follows its colon. -/
theorem parse_of_significant {text : String} {rest : List Char}
    (counts : significant text.toList = "http://".toList ++ rest) :
    parse text = ofHttp ('/' :: '/' :: rest) := by
  have scheme : ∀ char ∈ ['h', 't', 't', 'p'], isSchemeChar char = true :=
    List.all_eq_true.mp (by decide)
  have colon : isSchemeChar ':' = false := by decide
  have lower : (String.ofList ['h', 't', 't', 'p']).toLower = "http" := by decide +kernel
  have counts : significant text.toList =
      ['h', 't', 't', 'p'] ++ ':' :: '/' :: '/' :: rest := counts
  have taken : (['h', 't', 't', 'p'] ++ ':' :: '/' :: '/' :: rest).takeWhile isSchemeChar =
      ['h', 't', 't', 'p'] := by
    rw [List.takeWhile_append_of_pos scheme, List.takeWhile_cons_of_neg (by simp [colon])]
    rfl
  have dropped : (['h', 't', 't', 'p'] ++ ':' :: '/' :: '/' :: rest).dropWhile isSchemeChar =
      ':' :: '/' :: '/' :: rest := by
    rw [List.dropWhile_append_of_pos scheme, List.dropWhile_cons_of_neg (by simp [colon])]
  rw [parse, counts]
  simp only [taken, dropped]
  rw [lower]
  rfl

/-- An address of a plain host and a plain path is taken apart into these. -/
theorem parse_plain {host path : String} (known : isPlainHost host.toList = true)
    (plain : isPlainPath path.toList = true) :
    parse ("http://" ++ host ++ path) = .http host path := by
  have visible : ∀ char ∈ ("http://" ++ host ++ path).toList, isBlank char = false := by
    have scheme : ∀ char ∈ ['h', 't', 't', 'p', ':', '/', '/'], (!isBlank char) = true :=
      List.all_eq_true.mp (by decide)
    intro char member
    simp only [String.toList_append, List.mem_append] at member
    rcases member with (front | authority) | target
    · simpa using scheme char (by simpa using front)
    · simp only [isPlainHost, Bool.and_eq_true, List.all_eq_true, Bool.not_eq_true'] at known
      exact (known.2 char authority).2
    · exact forall_of_isPlainPath plain (fun char => Percent.isBlank_of_isWritten) (by decide) char
        target
  have counts : significant ("http://" ++ host ++ path).toList =
      "http://".toList ++ (host.toList ++ path.toList) := by
    rw [significant_of_visible visible, String.toList_append, String.toList_append,
      List.append_assoc]
  rw [parse_of_significant counts, ofHttp_plain known plain, String.ofList_toList,
    String.ofList_toList]

end Url

/-- The request for a plain path names the path and nothing else. -/
theorem Request.ofTarget_plain {path : String} (plain : Url.isPlainPath path.toList = true)
    (method : String) : Request.ofTarget method path = ⟨method, path, ""⟩ := by
  have whole := Url.ne_of_isPlainPath '?' (by decide) (by decide) plain
  have taken := List.takeWhile_eq_self_iff.mpr whole
  have dropped : path.toList.dropWhile (· != '?') = [] := by
    rw [← List.append_nil path.toList, List.dropWhile_append_of_pos whole]
    rfl
  simp [Request.ofTarget, taken, dropped]

namespace PeerRoutes

theorem underBase?_append (basePath rest : String) :
    underBase? basePath (basePath ++ rest) = some rest.toList := by
  simp [underBase?, String.toList_append, ← String.length_toList]

/-- The server that has a base path finds the group and the key of a path under it. -/
theorem dispatch_encode {γ : Type} (basePath : String) (find? : String → Option γ)
    (name key query : String) :
    dispatch basePath find?
        ⟨"GET", basePath ++ Segment.encode name ++ "/" ++ Segment.encode key, query⟩ =
      match find? name with
      | none => .error (.unknownGroup name)
      | some group => .ok (group, key) := by
  have under : underBase? basePath
      (basePath ++ Segment.encode name ++ "/" ++ Segment.encode key) =
      some ((Segment.encode name).toList ++ '/' :: (Segment.encode key).toList) := by
    rw [String.append_assoc, String.append_assoc, underBase?_append]
    simp
  cases found : find? name <;> simp [dispatch, under, groupAndKey?_encode, found]

end PeerRoutes

end PeerCache
