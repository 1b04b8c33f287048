import PeerCache.Proofs.Http.Addresses

/-! # Requests that cannot be mistaken

An address is the base of a node, a base path, and a group and a key. The base path may be any text,
and it may happen that what is asked for in the end is another path than the one that was meant:
line breaks are dropped, and what follows a number sign or a question mark is no part of the path.
But a server with the same base path takes only paths that start with it, and if one does, then
nothing of it has been lost, and so nothing of the group and the key either.
-/

namespace PeerCache

namespace Url

/-- Whether a text is the scheme and the authority of an address, as in `http://host:port`. -/
def IsBase (peer : String) : Prop :=
  ∃ authority, peer.toList = "http://".toList ++ authority ∧
    ∀ char ∈ authority, endsKnownAuthority char = false

/-- The path under a base path that a group and a key are asked for with. -/
def tailOf (name key : String) : List Char :=
  (Segment.encode name).toList ++ '/' :: (Segment.encode key).toList

private theorem mem_tailOf {name key : String} {char : Char} (member : char ∈ tailOf name key) :
    Percent.isWritten char = true ∨ char = '/' := by
  rcases List.mem_append.mp member with front | back
  · exact .inl (Segment.isWritten_of_mem_encode front)
  · rcases List.mem_cons.mp back with rfl | back
    · exact .inr rfl
    · exact .inl (Segment.isWritten_of_mem_encode back)

private theorem forall_tailOf {p : Char → Prop}
    (written : ∀ char, Percent.isWritten char = true → p char)
    (slash : p '/') (name key : String) : ∀ char ∈ tailOf name key, p char := by
  intro char member
  rcases mem_tailOf member with known | rfl
  · exact written char known
  · exact slash

private theorem ne_of_isWritten {char mark : Char} (written : Percent.isWritten char = true)
    (unwritten : Percent.isWritten mark = false) : (char != mark) = true := by
  rw [bne_iff_ne]
  rintro rfl
  simp [written] at unwritten

private theorem isBreak_of_isBlank {char : Char} (visible : isBlank char = false) :
    isBreak char = false := by
  by_contra broken
  simp only [isBreak, Bool.not_eq_false, Bool.or_eq_true, beq_iff_eq] at broken
  rcases broken with (rfl | rfl) | rfl <;> exact absurd visible (by decide)

/-! ## Taking addresses apart -/

/-- In a text that starts and ends with characters that show, only line breaks do not count. -/
theorem significant_of_ends {text : List Char}
    (first : ∀ char, text.head? = some char → isBlank char = false)
    (last : ∀ char, text.getLast? = some char → isBlank char = false) :
    significant text = text.filter (!isBreak ·) := by
  have kept : ∀ text : List Char, (∀ char, text.head? = some char → isBlank char = false) →
      text.dropWhile isBlank = text := by
    intro text first
    cases text with
    | nil => rfl
    | cons char rest => rw [List.dropWhile_cons_of_neg (by simp [first char rfl])]
  rw [significant, kept text first, kept text.reverse (by simpa using last), List.reverse_reverse]

/-- The target that a host is asked for is what follows the authority, up to a number sign. -/
theorem target_of_ofHttp {rest : List Char} {host target : String}
    (parsed : ofHttp ('/' :: '/' :: rest) = .http host target) :
    target.toList = (rest.dropWhile (!endsKnownAuthority ·)).takeWhile (· != '#') := by
  simp only [ofHttp] at parsed
  split_ifs at parsed
  cases parsed
  exact String.toList_ofList

private theorem dropWhile_authority {authority path : List Char}
    (inside : ∀ char ∈ authority, endsKnownAuthority char = false)
    (starts : path.head? = some '/') :
    (authority ++ path).dropWhile (!endsKnownAuthority ·) = path := by
  obtain ⟨rest, rfl⟩ := List.head?_eq_some_iff.mp starts
  rw [List.dropWhile_append_of_pos (by simpa using inside), List.dropWhile_cons_of_neg (by decide)]

/-- What the host of a node is asked for is what is left of the base path, and the group and the
key, up to a number sign. -/
theorem target_of_parse {peer basePath name key host target : String} (isBase : IsBase peer)
    (starts : basePath.toList.head? = some '/')
    (parsed : parse ((Getter.mk (peer ++ basePath)).url name key) = .http host target) :
    target.toList =
      (basePath.toList.filter (!isBreak ·) ++ tailOf name key).takeWhile (· != '#') := by
  obtain ⟨authority, named, inside⟩ := isBase
  let text := "http://".toList ++ (authority ++ (basePath.toList ++ tailOf name key))
  have whole : ((Getter.mk (peer ++ basePath)).url name key).toList = text := by
    simp [text, Getter.url, tailOf, named]
  have visible : ∀ char ∈ tailOf name key, isBlank char = false :=
    forall_tailOf (fun char => Percent.isBlank_of_isWritten) (by decide) name key
  have first : ∀ char, text.head? = some char → isBlank char = false := by
    rintro char ⟨⟩
    decide
  have last : ∀ char, text.getLast? = some char → isBlank char = false := by
    intro char ends
    refine visible char (List.mem_of_getLast? ?_)
    simpa [text, List.getLast?_append, tailOf, List.getLast?_cons] using ends
  have counts : significant text = "http://".toList ++ (authority.filter (!isBreak ·) ++
      (basePath.toList.filter (!isBreak ·) ++ tailOf name key)) := by
    have scheme : ("http://".toList).filter (!isBreak ·) = "http://".toList := by decide
    have tail : (tailOf name key).filter (!isBreak ·) = tailOf name key :=
      List.filter_eq_self.mpr fun char member => by
        simp [isBreak_of_isBlank (visible char member)]
    rw [significant_of_ends first last]
    simp only [text, List.filter_append, scheme, tail]
  rw [parse_of_significant (by rw [whole, counts])] at parsed
  rw [target_of_ofHttp parsed, dropWhile_authority]
  · intro char member
    exact inside char (List.mem_filter.mp member).1
  · obtain ⟨rest, whole⟩ := List.head?_eq_some_iff.mp starts
    rw [whole, List.filter_cons_of_pos (by decide)]
    rfl

/-- If the whole base path is still there, then none of its characters is one that is lost. -/
theorem unhurt_of_prefix {basePath name key : String}
    (under : basePath.toList <+: (((basePath.toList.filter (!isBreak ·) ++
      tailOf name key).takeWhile (· != '#')).takeWhile (· != '?'))) :
    ∀ char ∈ basePath.toList,
      isBreak char = false ∧ (char != '#') = true ∧ (char != '?') = true := by
  intro char member
  have found := under.subset member
  have found' := (List.takeWhile_sublist _).subset found
  refine ⟨?_, List.mem_takeWhile_imp (p := (· != '#')) found',
    List.mem_takeWhile_imp (p := (· != '?')) found⟩
  rcases List.mem_append.mp ((List.takeWhile_sublist _).subset found') with base | tail
  · simpa using (List.mem_filter.mp base).2
  · exact isBreak_of_isBlank (forall_tailOf (fun char => Percent.isBlank_of_isWritten) (by decide)
      name key char tail)

/-- No mark cuts a path short in which it does not occur under the base path either. -/
private theorem takeWhile_tailOf {basePath name key : String} {mark : Char}
    (unwritten : Percent.isWritten mark = false) (other : mark ≠ '/')
    (inside : ∀ char ∈ basePath.toList, (char != mark) = true) :
    (basePath.toList ++ tailOf name key).takeWhile (· != mark) =
      basePath.toList ++ tailOf name key := by
  rw [List.takeWhile_eq_self_iff]
  intro char member
  rcases List.mem_append.mp member with base | tail
  · exact inside char base
  · exact forall_tailOf (p := fun char => (char != mark) = true)
      (fun char known => ne_of_isWritten known unwritten) (by simpa using other.symm) name key
      char tail

end Url

namespace PeerRoutes

/-- A server answers for what is under its base path only. -/
theorem prefix_of_dispatch {γ : Type} {basePath key : String} {find? : String → Option γ}
    {request : Request} {group : γ} (served : dispatch basePath find? request = .ok (group, key)) :
    basePath.toList <+: request.path.toList := by
  unfold dispatch underBase? at served
  split_ifs at served with method starts
  exact List.isPrefixOf_iff_prefix.mp starts

/-- What a server is asked for by a getter with the same base path is the group and the key that
the getter was asked for. -/
theorem dispatch_of_parse {γ : Type} {peer basePath name key key' host target : String}
    {find? : String → Option γ} {group : γ} (isBase : Url.IsBase peer)
    (starts : basePath.toList.head? = some '/')
    (parsed : Url.parse ((Getter.mk (peer ++ basePath)).url name key) = .http host target)
    (served : dispatch basePath find? (.ofTarget "GET" target) = .ok (group, key')) :
    find? name = some group ∧ key' = key := by
  have asked := Url.target_of_parse isBase starts parsed
  have under := prefix_of_dispatch served
  simp only [Request.ofTarget, String.toList_ofList, asked] at under
  have unhurt := Url.unhurt_of_prefix under
  have kept : basePath.toList.filter (!Url.isBreak ·) = basePath.toList :=
    List.filter_eq_self.mpr fun char member => by simp [(unhurt char member).1]
  have whole : target.toList = basePath.toList ++ Url.tailOf name key := by
    rw [asked, kept, Url.takeWhile_tailOf (by decide) (by decide)
      fun char member => (unhurt char member).2.1]
  have request : Request.ofTarget "GET" target =
      ⟨"GET", basePath ++ Segment.encode name ++ "/" ++ Segment.encode key,
        (Request.ofTarget "GET" target).query⟩ := by
    simp only [Request.ofTarget, Request.mk.injEq, true_and, and_true]
    rw [whole, Url.takeWhile_tailOf (by decide) (by decide)
      fun char member => (unhurt char member).2.2]
    simp [Url.tailOf, ← String.toList_inj]
  rw [request, dispatch_encode] at served
  cases found : find? name with
  | none => simp [found] at served
  | some other =>
    simp only [found, Except.ok.injEq, Prod.mk.injEq] at served
    exact ⟨congrArg some served.1, served.2.symm⟩

end PeerRoutes

end PeerCache
