import PeerCache.Hash.Checksum
import PeerCache.Proofs.Ring.Listing

/-! # What keeps a ring occupied

A position that a peer claims in vain is not remembered for it: when the earlier owner leaves, the
position is given up, though the later claimant is still there. So a ring can lose its last position
while somebody who joined has not left. A peer keeps a ring occupied if it was seated, that is, if
some position was free when the peer was placed and no peer in front of it claimed that position.
-/

namespace PeerCache.Ring

/-- A peer got a position that was free, and has not been taken off since. -/
def SeatedAt (hasher : Hasher) (replicas : Nat) (changes : List Change) (peer : String)
    (seat : UInt32) : Prop :=
  PlacedWhen (fun earlier batch => ((empty hasher replicas).run earlier).owners[seat]? = none ∧
    firstClaimant? hasher replicas batch seat = some peer) changes peer

/-- A peer was ever placed, whether or not it has been taken off since. -/
def Appeared (changes : List Change) (peer : String) : Prop :=
  ∃ batch, .add batch ∈ changes ∧ peer ∈ batch

/-- What decides whether a ring is empty after some changes of membership. -/
structure Survival (hasher : Hasher) (replicas : Nat) (changes : List Change) (ring : Ring) :
    Prop where
  /-- On an empty ring nobody owns any key, and on another one every key has an owner. -/
  deserted : ∀ key, ring.owner? key = none ↔ ring.isEmpty = true
  /-- When everybody who joined has left, the ring is empty. -/
  abandoned : (∀ peer, ¬ Joined changes peer) → ring.isEmpty = true
  /-- It is also empty when of those who joined and have not left, nobody got a free position. -/
  unseated : ring.isEmpty = true ↔
    ∀ peer, Joined changes peer → ∀ seat, ¬ SeatedAt hasher replicas changes peer seat
  /-- If each of those has a position that nobody else ever claimed, it takes all of them to
  leave. -/
  undisputed : (∀ peer, Joined changes peer → ∃ seat ∈ (empty hasher replicas).claims peer,
      ∀ other, Appeared changes other → seat ∈ (empty hasher replicas).claims other →
        other = peer) →
    (ring.isEmpty = true ↔ ∀ peer, ¬ Joined changes peer)

variable {hasher : Hasher} {replicas : Nat} {changes : List Change} {peer : String} {seat : UInt32}

private theorem SeatedAt.joined (seated : SeatedAt hasher replicas changes peer seat) :
    Joined changes peer := by
  obtain ⟨earlier, batch, later, split, ⟨-, first⟩, stays⟩ := seated
  exact ⟨earlier, batch, later, split, List.mem_of_find?_eq_some first, stays⟩

/-- A change of membership seats and unseats peers just as it gives and takes positions. -/
theorem owns_iff_seatedAt : ((empty hasher replicas).run changes).owners[seat]? = some peer ↔
    SeatedAt hasher replicas changes peer seat := by
  induction changes using List.reverseRecOn generalizing peer with
  | nil => simp [run, empty, SeatedAt, PlacedWhen]
  | append_singleton changes change ih =>
    rw [run_concat]
    cases change with
    | add batch =>
      have alike := (empty hasher replicas).alike_run changes
      rw [SeatedAt, placedWhen_concat_add, ← SeatedAt, ← ih, step, getElem?_add,
        Option.or_eq_some_iff, firstClaimant?, or_comm]
      simp only [alike.claims_eq]
    | remove leaver =>
      have sound := (sound_empty hasher replicas).run changes
      rw [SeatedAt, placedWhen_concat_remove, ← SeatedAt, ← ih, step, sound.getElem?_remove,
        Option.filter_eq_some_iff, decide_eq_true_eq, and_comm]

/-- A ring is empty exactly if nobody is seated anywhere. -/
theorem isEmpty_run_iff : ((empty hasher replicas).run changes).isEmpty = true ↔
    ∀ peer seat, ¬ SeatedAt hasher replicas changes peer seat := by
  have sound := (sound_empty hasher replicas).run changes
  rw [isEmpty, List.isEmpty_iff, List.eq_nil_iff_forall_not_mem, forall_comm]
  simp only [sound.mem_positions_iff, owns_iff_seatedAt, not_exists]

private theorem SeatedAt.claims (seated : SeatedAt hasher replicas changes peer seat) :
    seat ∈ (empty hasher replicas).claims peer := by
  obtain ⟨earlier, batch, later, -, ⟨-, first⟩, -⟩ := seated
  simpa using List.find?_some first

private theorem SeatedAt.append {later : List Change}
    (seated : SeatedAt hasher replicas changes peer seat) (stays : .remove peer ∉ later) :
    SeatedAt hasher replicas (changes ++ later) peer seat := by
  obtain ⟨earlier, batch, between, rfl, got, stays'⟩ := seated
  exact ⟨earlier, batch, between ++ later, by simp, got, by simp [stays, stays']⟩

private theorem Joined.appeared (joined : Joined changes peer) : Appeared changes peer := by
  obtain ⟨earlier, batch, later, rfl, member, -⟩ := joined
  exact ⟨batch, by simp, member⟩

/-- Whoever joined has a seat, if nobody else ever claimed some position that it claims. -/
theorem Joined.seatedAt (joined : Joined changes peer)
    (claims : seat ∈ (empty hasher replicas).claims peer)
    (alone : ∀ other, Appeared changes other → seat ∈ (empty hasher replicas).claims other →
      other = peer) : SeatedAt hasher replicas changes peer seat := by
  obtain ⟨earlier, batch, later, rfl, member, stays⟩ := joined
  cases owned : ((empty hasher replicas).run earlier).owners[seat]? with
  | none =>
    have first : firstClaimant? hasher replicas batch seat = some peer :=
      find?_claims_of_alone member claims fun other here => alone other ⟨batch, by simp, here⟩
    exact ⟨earlier, batch, later, rfl, ⟨owned, first⟩, stays⟩
  | some owner =>
    -- nobody else can have it, and then it was not given back since
    have before := owns_iff_seatedAt.mp owned
    obtain ⟨batch', placed, here⟩ := before.joined.appeared
    obtain rfl := alone owner ⟨batch', List.mem_append_left _ placed, here⟩ before.claims
    exact before.append (by simpa using stays)

/-- Whatever a ring has been through and whatever collides, it is empty exactly if of those who
joined and have not left, nobody has a position that was free when it came. -/
theorem run_survival (hasher : Hasher) (replicas : Nat) (changes : List Change) :
    Survival hasher replicas changes ((empty hasher replicas).run changes) := by
  have sound := (sound_empty hasher replicas).run changes
  have abandoned : (∀ peer, ¬ Joined changes peer) →
      ((empty hasher replicas).run changes).isEmpty = true := fun left =>
    isEmpty_run_iff.mpr fun peer _ seated => left peer seated.joined
  refine ⟨fun key => ?_, abandoned, ?_, fun undisputed => ⟨fun deserted peer joined => ?_,
    abandoned⟩⟩
  · rw [sound.owner?_eq_none_iff, isEmpty, List.isEmpty_iff]
  · rw [isEmpty_run_iff]
    exact ⟨fun free peer _ => free peer, fun free peer seat seated =>
      free peer seated.joined seat seated⟩
  · obtain ⟨seat, claims, alone⟩ := undisputed peer joined
    exact isEmpty_run_iff.mp deserted peer seat (joined.seatedAt claims alone)

/-- Of two peers that meet on the only position, the later one is still there when the earlier one
leaves, but the ring is empty. -/
theorem joined_on_empty_ring : ¬ ∀ (hasher : Hasher) (replicas : Nat) (changes : List Change),
    1 ≤ replicas →
    (((empty hasher replicas).run changes).isEmpty = true ↔ ∀ peer, ¬ Joined changes peer) := by
  intro alive
  have left := (alive (Checksum.constant 7).hasher 1 [.add ["a", "b"], .remove "a"]
    (Nat.le_refl 1)).mp (by decide +kernel) "b"
  exact left ⟨[], ["a", "b"], [.remove "a"], rfl, by decide, by decide⟩

end PeerCache.Ring
