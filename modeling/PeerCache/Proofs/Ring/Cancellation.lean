import PeerCache.Proofs.Ring.Ownership

/-! # Changes of membership that cancel

A peer that leaves and joins again finds the ring as it was, however its positions collide with
those of others and among themselves. The positions that it does not own are owned by others, before
and after, and those that it owns are free while it is away. Each equation is one between the owners
of a position.
-/

namespace PeerCache.Ring

/-- Which changes of membership have no effect on a ring. -/
structure Cancellation (ring : Ring) : Prop where
  /-- Who leaves and joins again has never been away. -/
  rejoined : ∀ peer, ((ring.add [peer]).remove peer).add [peer] = ring.add [peer]
  /-- Who is on the ring may join again. -/
  repeated : ∀ peer, (ring.add [peer]).add [peer] = ring.add [peer]
  /-- Who joins and leaves again has never been there, unless it owned a position before. -/
  withdrawn : ∀ peer, (∀ position : UInt32, ring.owners[position]? ≠ some peer) →
    (ring.add [peer]).remove peer = ring
  /-- Peers may join one by one instead of all at once. -/
  batched : ∀ peers, ring.add peers = peers.foldl (fun ring peer => ring.add [peer]) ring

variable {ring : Ring}

/-- What a single peer gets. -/
theorem getElem?_add_singleton (ring : Ring) (peer : String) (seat : UInt32) :
    (ring.add [peer]).owners[seat]? =
      ring.owners[seat]?.or (if seat ∈ ring.claims peer then some peer else none) :=
  ring.getElem?_place peer seat

private theorem Sound.add_remove_add (sound : ring.Sound) (peer : String) :
    ((ring.add [peer]).remove peer).add [peer] = ring.add [peer] := by
  have joined := sound.add [peer]
  have left := joined.remove peer
  have alike := ((ring.add [peer]).alike_remove peer).trans (ring.alike_add [peer])
  refine (left.add [peer]).ext joined
    ((alike_add _ [peer]).trans ((ring.add [peer]).alike_remove peer)) fun seat => ?_
  rw [getElem?_add_singleton, alike.claims_eq, joined.getElem?_remove, getElem?_add_singleton]
  cases owns : ring.owners[seat]? with
  | none => by_cases claims : seat ∈ ring.claims peer <;> simp [claims, Option.filter_some]
  | some owner =>
    by_cases same : owner = peer
    · -- what the peer has, it claims, and so it gets that again
      subst same
      simp [Option.filter_some, sound.claimed seat owner owns]
    · simp [Option.filter_some, same]

theorem Sound.add_add (sound : ring.Sound) (peer : String) :
    (ring.add [peer]).add [peer] = ring.add [peer] := by
  have joined := sound.add [peer]
  refine (joined.add [peer]).ext joined (alike_add _ [peer]) fun seat => ?_
  rw [getElem?_add_singleton, (ring.alike_add [peer]).claims_eq, getElem?_add_singleton,
    Option.or_assoc, Option.or_self]

theorem Sound.add_remove (sound : ring.Sound) {peer : String}
    (absent : ∀ position : UInt32, ring.owners[position]? ≠ some peer) :
    (ring.add [peer]).remove peer = ring := by
  have joined := sound.add [peer]
  refine (joined.remove peer).ext sound
    (((ring.add [peer]).alike_remove peer).trans (ring.alike_add [peer])) fun seat => ?_
  rw [joined.getElem?_remove, getElem?_add_singleton]
  cases owns : ring.owners[seat]? with
  | none => by_cases claims : seat ∈ ring.claims peer <;> simp [claims, Option.filter_some]
  | some owner =>
    have different : owner ≠ peer := fun same => absent seat (same ▸ owns)
    simp [Option.filter_some, different]

/-- The peers of a batch may join in two parts. -/
theorem Sound.add_append (sound : ring.Sound) (first second : List String) :
    ring.add (first ++ second) = (ring.add first).add second := by
  refine (sound.add _).ext ((sound.add first).add second) ?_ fun seat => ?_
  · exact (ring.alike_add _).trans
      ((alike_add (ring.add first) second).trans (ring.alike_add first)).symm
  · simp only [getElem?_add, (ring.alike_add first).claims_eq, List.find?_append, Option.or_assoc]

theorem Sound.add_nil (sound : ring.Sound) : ring.add [] = ring :=
  (sound.add []).ext sound (ring.alike_add []) fun seat => by rw [getElem?_add]; simp

theorem Sound.add_eq_foldl (sound : ring.Sound) (peers : List String) :
    ring.add peers = peers.foldl (fun ring peer => ring.add [peer]) ring := by
  induction peers generalizing ring with
  | nil => exact sound.add_nil
  | cons peer rest ih =>
    rw [List.foldl_cons, ← ih (sound.add [peer])]
    exact sound.add_append [peer] rest

/-- Whatever a ring has been through and whatever collides, additions and removals cancel. -/
theorem run_cancellation (hasher : Hasher) (replicas : Nat) (changes : List Change) :
    ((empty hasher replicas).run changes).Cancellation := by
  have sound := (sound_empty hasher replicas).run changes
  exact ⟨sound.add_remove_add, sound.add_add, fun _ => sound.add_remove, sound.add_eq_foldl⟩

end PeerCache.Ring
