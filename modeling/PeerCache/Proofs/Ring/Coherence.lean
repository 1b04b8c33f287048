import PeerCache.Proofs.Ring.Ownership

/-! # Coherence of a ring

Whatever positions collide, and in whatever way peers come and go, the list of positions and the map
of owners of a ring stay in step: the list is increasing, it holds what is owned, and the owners are
peers that joined and have not left. So the search answers the owner of the position that serves a
key, and never finds a position without one.
-/

namespace PeerCache.Ring

/-- A peer was placed by one of the changes, and has not been taken off since. -/
def Joined (changes : List Change) (peer : String) : Prop :=
  ∃ earlier peers later, changes = earlier ++ .add peers :: later ∧ peer ∈ peers ∧
    .remove peer ∉ later

/-- What it means for a ring to be coherent after some changes of membership. -/
structure Coherent (hasher : Hasher) (replicas : Nat) (changes : List Change) (ring : Ring) :
    Prop where
  /-- The positions are strictly increasing. -/
  increasing : ring.positions.Pairwise (· < ·)
  /-- The positions are those that have an owner. -/
  owned : ∀ position, position ∈ ring.positions ↔ position ∈ ring.owners
  /-- An owner has joined and not left, and one of its replicas is placed there. -/
  claimed : ∀ (position : UInt32) peer, ring.owners[position]? = some peer →
    Joined changes peer ∧
      ∃ replica < replicas, hasher (Bytes.ofText (toString replica ++ peer)) = position
  /-- Only on an empty ring, nobody owns a key. -/
  deserted : ∀ key, ring.owner? key = none ↔ ring.positions = []
  /-- Otherwise, the owner of the position that serves its hash does. -/
  served : ring.positions ≠ [] → ∀ key, ∃ seat peer,
    Serves ring.positions (hasher (Bytes.ofText key)) seat ∧ ring.owners[seat]? = some peer ∧
      ring.owner? key = some peer

/-! ## Owners of keys -/

section Owners

variable {ring : Ring} {key peer : String}

/-- A key belongs to the owner of the position that serves it. -/
theorem Sound.owner?_eq_some_iff (sound : ring.Sound) : ring.owner? key = some peer ↔
    ∃ seat, Serves ring.positions (ring.hasher (Bytes.ofText key)) seat ∧
      ring.owners[seat]? = some peer := by
  unfold owner?
  rw [Option.bind_eq_bind, Option.bind_eq_some_iff]
  simp only [seat?_eq_some_iff sound.increasing]

/-- On a ring that is not empty, some position serves a key, and its owner owns the key. -/
theorem Sound.exists_serves (sound : ring.Sound) (occupied : ring.positions ≠ []) (key : String) :
    ∃ seat peer, Serves ring.positions (ring.hasher (Bytes.ofText key)) seat ∧
      ring.owners[seat]? = some peer ∧ ring.owner? key = some peer := by
  have found := (ring.seat?_eq_none_iff (ring.hasher (Bytes.ofText key))).not.mpr occupied
  obtain ⟨seat, found⟩ := Option.ne_none_iff_exists'.mp found
  have serves := serves_of_seat? sound.increasing found
  obtain ⟨peer, owns⟩ := sound.mem_positions_iff.mp serves.listed
  exact ⟨seat, peer, serves, owns, sound.owner?_eq_some_iff.mpr ⟨seat, serves, owns⟩⟩

theorem Sound.owner?_eq_none_iff (sound : ring.Sound) :
    ring.owner? key = none ↔ ring.positions = [] := by
  constructor
  · intro deserted
    by_contra occupied
    obtain ⟨seat, peer, -, -, owner⟩ := sound.exists_serves occupied key
    rw [deserted] at owner
    cases owner
  · intro empty
    rw [owner?, (ring.seat?_eq_none_iff _).mpr empty]
    rfl

end Owners

/-! ## Members -/

section Members

variable {changes : List Change} {peers : List String} {peer other : String}

/-- A batch was placed by one of the changes in certain circumstances, and a peer has not been taken
off since. The circumstances are those of the changes before the batch and of the batch. -/
def PlacedWhen (fits : List Change → List String → Prop) (changes : List Change) (peer : String) :
    Prop :=
  ∃ earlier peers later, changes = earlier ++ .add peers :: later ∧ fits earlier peers ∧
    .remove peer ∉ later

theorem placedWhen_concat_add (fits : List Change → List String → Prop) :
    PlacedWhen fits (changes ++ [.add peers]) peer ↔
      fits changes peers ∨ PlacedWhen fits changes peer := by
  constructor
  · rintro ⟨earlier, batch, later, split, suits, stays⟩
    rcases List.eq_nil_or_concat' later with rfl | ⟨later, last, rfl⟩
    · obtain ⟨rfl, same⟩ := List.append_inj' split rfl
      cases same
      exact .inl suits
    · rw [← List.cons_append, ← List.append_assoc] at split
      obtain ⟨rfl, -⟩ := List.append_inj' split rfl
      refine .inr ⟨earlier, batch, later, rfl, suits, fun left => ?_⟩
      exact stays (List.mem_append_left _ left)
  · rintro (suits | ⟨earlier, batch, later, rfl, suits, stays⟩)
    · exact ⟨changes, peers, [], rfl, suits, List.not_mem_nil⟩
    · refine ⟨earlier, batch, later ++ [.add peers], by simp, suits, ?_⟩
      simpa using stays

theorem placedWhen_concat_remove (fits : List Change → List String → Prop) :
    PlacedWhen fits (changes ++ [.remove other]) peer ↔
      peer ≠ other ∧ PlacedWhen fits changes peer := by
  constructor
  · rintro ⟨earlier, batch, later, split, suits, stays⟩
    rcases List.eq_nil_or_concat' later with rfl | ⟨later, last, rfl⟩
    · obtain ⟨-, same⟩ := List.append_inj' split rfl
      cases same
    · rw [← List.cons_append, ← List.append_assoc] at split
      obtain ⟨rfl, same⟩ := List.append_inj' split rfl
      cases same
      simp only [List.mem_append, List.mem_singleton, Change.remove.injEq, not_or] at stays
      exact ⟨stays.2, earlier, batch, later, rfl, suits, stays.1⟩
  · rintro ⟨different, earlier, batch, later, rfl, suits, stays⟩
    refine ⟨earlier, batch, later ++ [.remove other], by simp, suits, ?_⟩
    simp [stays, different]

/-- A batch adds members, and takes nobody off. -/
theorem joined_concat_add :
    Joined (changes ++ [.add peers]) peer ↔ peer ∈ peers ∨ Joined changes peer :=
  placedWhen_concat_add fun _ batch => peer ∈ batch

/-- Of the members, a removal takes off one. -/
theorem joined_concat_remove :
    Joined (changes ++ [.remove other]) peer ↔ peer ≠ other ∧ Joined changes peer :=
  placedWhen_concat_remove fun _ batch => peer ∈ batch

end Members

/-! ## Runs -/

theorem run_concat (ring : Ring) (changes : List Change) (change : Change) :
    ring.run (changes ++ [change]) = (ring.run changes).step change := by
  rw [run, List.foldl_append]
  rfl

/-- Who owns a position has joined and not left. -/
theorem joined_of_owns {hasher : Hasher} {replicas : Nat} {changes : List Change} {peer : String}
    {position : UInt32}
    (owns : ((empty hasher replicas).run changes).owners[position]? = some peer) :
    Joined changes peer := by
  induction changes using List.reverseRecOn generalizing peer with
  | nil => simp [run, empty] at owns
  | append_singleton changes change ih =>
    have sound := (sound_empty hasher replicas).run changes
    rw [run_concat] at owns
    cases change with
    | add peers =>
      rw [step, getElem?_add, Option.or_eq_some_iff] at owns
      refine joined_concat_add.mpr ?_
      rcases owns with owns | ⟨-, owns⟩
      · exact .inr (ih owns)
      · exact .inl (List.mem_of_find?_eq_some owns)
    | remove other =>
      rw [step, sound.getElem?_remove, Option.filter_eq_some_iff, decide_eq_true_eq] at owns
      exact joined_concat_remove.mpr ⟨owns.2, ih owns.1⟩

/-- Whoever joins and leaves, and whatever collides, a ring that started empty is coherent. -/
theorem run_coherent (hasher : Hasher) (replicas : Nat) (changes : List Change) :
    Coherent hasher replicas changes ((empty hasher replicas).run changes) := by
  have alike := (empty hasher replicas).alike_run changes
  have sound := (sound_empty hasher replicas).run changes
  refine ⟨sound.increasing, sound.owned, ?_, fun _ => sound.owner?_eq_none_iff, ?_⟩
  · intro position peer owns
    have claims := sound.claimed position peer owns
    rw [alike.claims_eq] at claims
    obtain ⟨replica, inside, placed⟩ := List.mem_map.mp claims
    exact ⟨joined_of_owns owns, replica, List.mem_range.mp inside, placed⟩
  · intro occupied key
    have served := sound.exists_serves occupied key
    rwa [alike.hasher] at served

/-- A key behind the last position belongs to the owner of the first one. -/
example : ["2", "11", "23", "27"].map
      ((empty decimalValue 3).run [.add ["6", "4", "2"], .add ["8"], .remove "8"]).owner? =
    [some "2", some "2", some "4", some "2"] := by
  cbv

end PeerCache.Ring
