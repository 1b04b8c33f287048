import PeerCache.Proofs.Ring.Search

/-! # Who owns a position

What a change of membership does to a position can be told without the others. A peer that is placed
takes those of the positions it claims that have no owner, and a peer that is taken off gives back
those that it owns. While a batch is placed the positions are out of order, so that less is kept
then than what holds of a ring between changes. A sound ring is determined by its owners: equations
between rings are equations between owners.
-/

namespace PeerCache.Ring

/-- Two rings place peers and keys alike. -/
structure Alike (ring other : Ring) : Prop where
  hasher : ring.hasher = other.hasher
  replicas : ring.replicas = other.replicas

/-- The positions are those that have an owner, each of them once, and an owner claims what it
owns. -/
structure Tallied (ring : Ring) : Prop where
  nodup : ring.positions.Nodup
  owned : ∀ position, position ∈ ring.positions ↔ position ∈ ring.owners
  claimed : ∀ position peer, ring.owners[position]? = some peer → position ∈ ring.claims peer

/-- In a ring that can be searched, the positions are in increasing order as well. -/
structure Sound (ring : Ring) : Prop extends ring.Tallied where
  increasing : ring.positions.Pairwise (· < ·)

variable {ring other third : Ring} {peer : String} {position : UInt32}

private theorem Alike.refl (ring : Ring) : ring.Alike ring := ⟨rfl, rfl⟩

theorem Alike.trans (alike : ring.Alike other) (alike' : other.Alike third) : ring.Alike third :=
  ⟨alike.hasher.trans alike'.hasher, alike.replicas.trans alike'.replicas⟩

theorem Alike.symm (alike : ring.Alike other) : other.Alike ring :=
  ⟨alike.hasher.symm, alike.replicas.symm⟩

theorem Alike.claims_eq (alike : ring.Alike other) (peer : String) :
    ring.claims peer = other.claims peer := by
  unfold claims Ring.position
  rw [alike.hasher, alike.replicas]

/-- Steps that keep the layout of a ring keep it altogether. -/
private theorem alike_foldl {α : Type} {change : Ring → α → Ring}
    (each : ∀ ring item, (change ring item).Alike ring) (ring : Ring) (items : List α) :
    (items.foldl change ring).Alike ring := by
  induction items generalizing ring with
  | nil => exact .refl ring
  | cons item rest ih => exact (ih _).trans (each ring item)

/-- The positions are those that some peer owns. -/
theorem Tallied.mem_positions_iff (tallied : ring.Tallied) :
    position ∈ ring.positions ↔ ∃ peer, ring.owners[position]? = some peer := by
  rw [tallied.owned, Std.ExtTreeMap.mem_iff_isSome_getElem?, Option.isSome_iff_exists]

theorem sound_empty (hasher : Hasher) (replicas : Nat) : (empty hasher replicas).Sound where
  nodup := .nil
  owned := by simp [empty]
  claimed := by simp [empty]
  increasing := .nil

/-- Sound rings with the same owners are the same ring. -/
theorem Sound.ext (sound : ring.Sound) (sound' : other.Sound) (alike : ring.Alike other)
    (owners : ∀ position : UInt32, ring.owners[position]? = other.owners[position]?) :
    ring = other := by
  have owners : ring.owners = other.owners := Std.ExtTreeMap.ext_getElem? owners
  have positions : ring.positions = other.positions := by
    refine List.Perm.eq_of_pairwise ?_ sound.increasing sound'.increasing ?_
    · intro first second _ _ below above
      exact absurd below (UInt32.lt_asymm above)
    · rw [List.perm_ext_iff_of_nodup sound.nodup sound'.nodup]
      intro position
      rw [sound.owned, sound'.owned, owners]
  obtain ⟨hasher, replicas⟩ := alike
  cases ring
  cases other
  simp only at *
  subst hasher replicas owners positions
  rfl

/-! ## Placing peers -/

private theorem alike_claim (ring : Ring) (peer : String) (position : UInt32) :
    (ring.claim peer position).Alike ring := by
  unfold claim
  split <;> exact ⟨rfl, rfl⟩

private theorem getElem?_claim (ring : Ring) (peer : String) (position seat : UInt32) :
    (ring.claim peer position).owners[seat]? =
      ring.owners[seat]?.or (if seat = position then some peer else none) := by
  unfold claim
  split
  case isTrue owned =>
    obtain ⟨owner, owns⟩ :=
      Option.isSome_iff_exists.mp (Std.ExtTreeMap.mem_iff_isSome_getElem?.mp owned)
    by_cases same : seat = position
    · simp [same, owns]
    · simp [same]
  case isFalse free =>
    rw [Std.ExtTreeMap.mem_iff_isSome_getElem?, Option.not_isSome_iff_eq_none] at free
    by_cases same : seat = position
    · simp [same, free]
    · rw [Std.ExtTreeMap.getElem?_insert, if_neg (by simpa using Ne.symm same), if_neg same,
        Option.or_none]

private theorem Tallied.claim (tallied : ring.Tallied) (claims : position ∈ ring.claims peer) :
    (ring.claim peer position).Tallied := by
  have alike := ring.alike_claim peer position
  refine ⟨?_, ?_, ?_⟩
  · unfold Ring.claim
    split
    case isTrue owned => exact tallied.nodup
    case isFalse free =>
      exact List.nodup_cons.mpr ⟨(tallied.owned position).not.mpr free, tallied.nodup⟩
  · intro seat
    unfold Ring.claim
    split
    case isTrue owned => exact tallied.owned seat
    case isFalse free =>
      rw [List.mem_cons, Std.ExtTreeMap.mem_insert, tallied.owned,
        Std.LawfulEqCmp.compare_eq_iff_eq, eq_comm]
  · intro seat owner owns
    rw [alike.claims_eq]
    rw [getElem?_claim, Option.or_eq_some_iff] at owns
    rcases owns with owns | ⟨-, owns⟩
    · exact tallied.claimed seat owner owns
    · split at owns
      · next same =>
        cases owns
        rwa [same]
      · cases owns

private theorem alike_place (ring : Ring) (peer : String) : (ring.place peer).Alike ring :=
  alike_foldl (fun ring position => ring.alike_claim peer position) ring (ring.claims peer)

/-- A peer that is placed gets those of its positions that have no owner. -/
theorem getElem?_place (ring : Ring) (peer : String) (seat : UInt32) :
    (ring.place peer).owners[seat]? =
      ring.owners[seat]?.or (if seat ∈ ring.claims peer then some peer else none) := by
  unfold place
  generalize ring.claims peer = seats
  induction seats generalizing ring with
  | nil => simp
  | cons position rest ih =>
    rw [List.foldl_cons, ih, getElem?_claim, Option.or_assoc]
    by_cases same : seat = position <;> simp [same]

private theorem Tallied.place (tallied : ring.Tallied) (peer : String) :
    (ring.place peer).Tallied := by
  -- the peer claims the same positions all along
  have kept : (ring.place peer).Tallied ∧ (ring.place peer).Alike ring := by
    refine List.foldlRecOn (motive := fun next : Ring => next.Tallied ∧ next.Alike ring) _ _
      ⟨tallied, .refl ring⟩ ?_
    rintro next ⟨tallied, alike⟩ position claims
    rw [← alike.claims_eq] at claims
    exact ⟨tallied.claim claims, (next.alike_claim peer position).trans alike⟩
  exact kept.1

/-- The peers of a batch get positions in the order in which they are listed. -/
theorem getElem?_foldl_place (ring : Ring) (peers : List String) (seat : UInt32) :
    (peers.foldl place ring).owners[seat]? =
      ring.owners[seat]?.or (peers.find? fun peer => seat ∈ ring.claims peer) := by
  induction peers generalizing ring with
  | nil => simp
  | cons peer rest ih =>
    rw [List.foldl_cons, ih, getElem?_place, Option.or_assoc, List.find?_cons]
    simp only [(ring.alike_place peer).claims_eq]
    by_cases claims : seat ∈ ring.claims peer <;> simp [claims]

/-- What tallies can be searched once it is sorted. -/
theorem Tallied.sorted (tallied : ring.Tallied) : ring.sorted.Sound := by
  have same : ring.sorted.positions.Perm ring.positions := List.mergeSort_perm _ _
  have nodup : ring.sorted.positions.Nodup := same.nodup_iff.mpr tallied.nodup
  refine ⟨⟨nodup, fun position => same.mem_iff.trans (tallied.owned position), tallied.claimed⟩, ?_⟩
  have ascending : ring.sorted.positions.Pairwise (· ≤ ·) := by
    refine (List.pairwise_mergeSort ?_ ?_ ring.positions).imp of_decide_eq_true
    · intro first second third below above
      exact decide_eq_true (UInt32.le_trans (of_decide_eq_true below) (of_decide_eq_true above))
    · intro first second
      simpa using UInt32.le_total first second
  exact (ascending.and nodup).imp fun ⟨below, distinct⟩ => UInt32.lt_of_le_of_ne below distinct

theorem alike_add (ring : Ring) (peers : List String) : (ring.add peers).Alike ring := by
  have placed := alike_foldl alike_place ring peers
  exact ⟨placed.hasher, placed.replicas⟩

theorem Sound.add (sound : ring.Sound) (peers : List String) : (ring.add peers).Sound := by
  have tallied : (peers.foldl Ring.place ring).Tallied :=
    List.foldlRecOn peers _ sound.toTallied fun _ tallied peer _ => tallied.place peer
  exact tallied.sorted

/-- A position keeps its owner, or else gets the first of the new peers that claims it. -/
theorem getElem?_add (ring : Ring) (peers : List String) (seat : UInt32) :
    (ring.add peers).owners[seat]? =
      ring.owners[seat]?.or (peers.find? fun peer => seat ∈ ring.claims peer) :=
  ring.getElem?_foldl_place peers seat

/-! ## Taking peers off -/

private theorem alike_vacate (ring : Ring) (peer : String) (position : UInt32) :
    (ring.vacate peer position).Alike ring := by
  unfold vacate
  split <;> exact ⟨rfl, rfl⟩

private theorem getElem?_vacate (ring : Ring) (peer : String) (position seat : UInt32) :
    (ring.vacate peer position).owners[seat]? =
      ring.owners[seat]?.filter fun owner => owner ≠ peer ∨ seat ≠ position := by
  unfold vacate
  split
  case isTrue owned =>
    by_cases same : seat = position
    · simp [same, owned, Option.filter_some]
    · rw [Std.ExtTreeMap.getElem?_erase, if_neg (by simpa using Ne.symm same)]
      cases ring.owners[seat]? <;> simp [same, Option.filter_some]
  case isFalse foreign =>
    cases owns : ring.owners[seat]? with
    | none => rfl
    | some owner =>
      have different : owner ≠ peer ∨ seat ≠ position := by
        by_contra both
        push Not at both
        obtain ⟨rfl, rfl⟩ := both
        exact foreign owns
      rw [Option.filter_some, if_pos (decide_eq_true different)]

private theorem Sound.vacate (sound : ring.Sound) (peer : String) (position : UInt32) :
    (ring.vacate peer position).Sound := by
  by_cases owned : ring.owners[position]? = some peer
  · have listed : position ∈ ring.positions := sound.mem_positions_iff.mpr ⟨peer, owned⟩
    have erased := positions_vacate sound.increasing listed owned
    have subset : (ring.vacate peer position).positions.Sublist ring.positions :=
      erased ▸ List.erase_sublist
    refine ⟨⟨sound.nodup.sublist subset, ?_, ?_⟩, sound.increasing.sublist subset⟩
    · intro seat
      rw [erased, sound.nodup.mem_erase_iff, sound.owned, Ring.vacate, if_pos owned,
        Std.ExtTreeMap.mem_erase, ne_eq, ne_eq, Std.LawfulEqCmp.compare_eq_iff_eq, eq_comm]
    · intro seat owner owns
      rw [getElem?_vacate, Option.filter_eq_some_iff] at owns
      rw [(ring.alike_vacate peer position).claims_eq]
      exact sound.claimed seat owner owns.1
  · rwa [Ring.vacate, if_neg owned]

theorem alike_remove (ring : Ring) (peer : String) : (ring.remove peer).Alike ring :=
  alike_foldl (fun ring position => ring.alike_vacate peer position) ring (ring.claims peer)

theorem Sound.remove (sound : ring.Sound) (peer : String) : (ring.remove peer).Sound :=
  List.foldlRecOn (ring.claims peer) _ sound fun _ sound position _ => sound.vacate peer position

/-- A peer that is taken off loses those of its positions that it owns. -/
theorem getElem?_remove (ring : Ring) (peer : String) (seat : UInt32) :
    (ring.remove peer).owners[seat]? =
      ring.owners[seat]?.filter fun owner => owner ≠ peer ∨ seat ∉ ring.claims peer := by
  unfold remove
  generalize ring.claims peer = seats
  induction seats generalizing ring with
  | nil => cases owns : ring.owners[seat]? <;> simp [owns, Option.filter_some]
  | cons position rest ih =>
    rw [List.foldl_cons, ih, getElem?_vacate, Option.filter_filter]
    congr 1
    funext owner
    rw [Bool.eq_iff_iff, Bool.and_eq_true, decide_eq_true_eq, decide_eq_true_eq, decide_eq_true_eq,
      List.mem_cons]
    tauto

/-- A position keeps its owner, unless that is the peer that is taken off. -/
theorem Sound.getElem?_remove (sound : ring.Sound) (peer : String) (seat : UInt32) :
    (ring.remove peer).owners[seat]? = ring.owners[seat]?.filter fun owner => owner ≠ peer := by
  rw [Ring.getElem?_remove]
  cases owns : ring.owners[seat]? with
  | none => rfl
  | some owner =>
    by_cases same : owner = peer
    · subst same
      simp [Option.filter_some, sound.claimed seat owner owns]
    · simp [Option.filter_some, same]

/-! ## Runs -/

private theorem alike_step (ring : Ring) (change : Change) : (ring.step change).Alike ring := by
  cases change with
  | add peers => exact ring.alike_add peers
  | remove peer => exact ring.alike_remove peer

theorem Sound.step (sound : ring.Sound) (change : Change) : (ring.step change).Sound := by
  cases change with
  | add peers => exact sound.add peers
  | remove peer => exact sound.remove peer

theorem alike_run (ring : Ring) (changes : List Change) : (ring.run changes).Alike ring :=
  alike_foldl alike_step ring changes

theorem Sound.run (sound : ring.Sound) (changes : List Change) : (ring.run changes).Sound :=
  List.foldlRecOn changes _ sound fun _ sound change _ => sound.step change

end PeerCache.Ring
