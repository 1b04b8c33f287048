import PeerCache.Proofs.Ring.Coherence

/-! # Minimal disruption

When a peer joins or leaves, no key moves between two other peers. Of a ring before and after such a
change, one has all positions of the other, with the same owners. The position that serves a key
among more positions serves it among fewer too if it is still there, so that a key can only change
hands if the position that serves it came or went with the peer.
-/

namespace PeerCache.Ring

/-- A ring has some of the positions of another one, with the same owners. -/
structure Within (ring larger : Ring) : Prop where
  alike : ring.Alike larger
  shared : ∀ (position : UInt32) peer, ring.owners[position]? = some peer →
    larger.owners[position]? = some peer

/-- What it means for a ring that as few keys as possible change hands. -/
structure Steady (ring : Ring) : Prop where
  /-- When a peer joins, a key stays where it is or moves to that peer. -/
  joined : ∀ peer key, (ring.add [peer]).owner? key = ring.owner? key ∨
    (ring.add [peer]).owner? key = some peer
  /-- When a peer leaves, a key that is not its own stays where it is. -/
  stays : ∀ peer key, ring.owner? key ≠ some peer →
    (ring.remove peer).owner? key = ring.owner? key
  /-- When a peer has left, no key is its own. -/
  left : ∀ peer key, (ring.remove peer).owner? key ≠ some peer

variable {ring larger : Ring} {key peer owner : String}

private theorem within_add (ring : Ring) (peers : List String) : ring.Within (ring.add peers) where
  alike := (ring.alike_add peers).symm
  shared := by
    intro position peer owns
    rw [getElem?_add, owns, Option.some_or]

private theorem Sound.within_remove (sound : ring.Sound) (peer : String) :
    (ring.remove peer).Within ring where
  alike := ring.alike_remove peer
  shared := by
    intro position owner owns
    rw [sound.getElem?_remove, Option.filter_eq_some_iff] at owns
    exact owns.1

namespace Within

variable (within : ring.Within larger) (sound : ring.Sound) (sound' : larger.Sound)

include within sound sound'

private theorem subset : ring.positions ⊆ larger.positions := by
  intro position listed
  obtain ⟨peer, owns⟩ := sound.mem_positions_iff.mp listed
  exact sound'.mem_positions_iff.mpr ⟨peer, within.shared position peer owns⟩

/-- If nobody owns a key among more positions, nobody does among fewer. -/
theorem owner?_eq_none (deserted : larger.owner? key = none) : ring.owner? key = none := by
  rw [sound'.owner?_eq_none_iff] at deserted
  rw [sound.owner?_eq_none_iff]
  exact List.subset_nil.mp (deserted ▸ within.subset sound sound')

/-- Who owns a key among more positions owns it among fewer, unless the position that serves it is
missing there. -/
theorem owner?_cases (owns : larger.owner? key = some owner) : ring.owner? key = some owner ∨
    ∃ seat : UInt32, larger.owners[seat]? = some owner ∧ ring.owners[seat]? = none := by
  obtain ⟨seat, serves, owned⟩ := sound'.owner?_eq_some_iff.mp owns
  cases kept : ring.owners[seat]? with
  | none => exact .inr ⟨seat, owned, kept⟩
  | some keeper =>
    have listed : seat ∈ ring.positions := sound.mem_positions_iff.mpr ⟨keeper, kept⟩
    have same : keeper = owner :=
      Option.some.inj ((within.shared seat keeper kept).symm.trans owned)
    refine .inl (sound.owner?_eq_some_iff.mpr ⟨seat, ?_, same ▸ kept⟩)
    rw [within.alike.hasher]
    exact serves.of_subset (within.subset sound sound') listed

end Within

/-- A key belongs to the same peer as before one joined, or to the one that joined. -/
theorem Sound.owner?_add (sound : ring.Sound) (peer key : String) :
    (ring.add [peer]).owner? key = ring.owner? key ∨ (ring.add [peer]).owner? key = some peer := by
  have within := ring.within_add [peer]
  have sound' := sound.add [peer]
  cases owns : (ring.add [peer]).owner? key with
  | none => exact .inl (within.owner?_eq_none sound sound' owns).symm
  | some owner =>
    rcases within.owner?_cases sound sound' owns with kept | ⟨seat, owned, free⟩
    · exact .inl kept.symm
    · rw [getElem?_add, free, Option.none_or] at owned
      rw [List.mem_singleton.mp (List.mem_of_find?_eq_some owned)]
      exact .inr rfl

/-- A key that does not belong to a peer belongs to the same one after it left. -/
theorem Sound.owner?_remove (sound : ring.Sound) (foreign : ring.owner? key ≠ some peer) :
    (ring.remove peer).owner? key = ring.owner? key := by
  have within := sound.within_remove peer
  have sound' := sound.remove peer
  cases owns : ring.owner? key with
  | none => exact within.owner?_eq_none sound' sound owns
  | some owner =>
    rcases within.owner?_cases sound' sound owns with kept | ⟨seat, owned, free⟩
    · exact kept
    · have different : owner ≠ peer := fun same => foreign (same ▸ owns)
      rw [sound.getElem?_remove, owned, Option.filter_some,
        if_pos (decide_eq_true different)] at free
      cases free

/-- A peer that left owns no key. -/
theorem Sound.owner?_remove_ne (sound : ring.Sound) (peer key : String) :
    (ring.remove peer).owner? key ≠ some peer := by
  intro owns
  obtain ⟨seat, -, owned⟩ := (sound.remove peer).owner?_eq_some_iff.mp owns
  rw [sound.getElem?_remove, Option.filter_eq_some_iff, decide_eq_true_eq] at owned
  exact owned.2 rfl

/-- Whatever a ring has been through and whatever collides, a key moves only to a peer that joins,
and only from a peer that leaves. -/
theorem run_steady (hasher : Hasher) (replicas : Nat) (changes : List Change) :
    ((empty hasher replicas).run changes).Steady := by
  have sound := (sound_empty hasher replicas).run changes
  exact ⟨sound.owner?_add, fun _ _ => sound.owner?_remove, sound.owner?_remove_ne⟩

end PeerCache.Ring
