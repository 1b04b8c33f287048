import PeerCache.Proofs.Ring.Cancellation
import PeerCache.Proofs.Ring.Coherence

/-! # Rings of a listing

A ring that is freshly built from a list of peers has the positions that some of them claim, and a
position belongs to the one that comes first in the list among those that claim it. So the positions
do not depend on the order of the list, and the owners do only where claims meet.
-/

namespace PeerCache.Ring

/-- The ring freshly built from a list of peers. -/
def ofListing (hasher : Hasher) (replicas : Nat) (listing : List String) : Ring :=
  (empty hasher replicas).add listing

/-- The peer of a list that is named first among those that claim a position. -/
def firstClaimant? (hasher : Hasher) (replicas : Nat) (listing : List String) (seat : UInt32) :
    Option String :=
  listing.find? fun peer => seat ∈ (empty hasher replicas).claims peer

variable {hasher : Hasher} {replicas : Nat} {listing other : List String} {key peer : String}
  {seat : UInt32}

theorem mem_claims_empty : seat ∈ (empty hasher replicas).claims peer ↔
    ∃ replica < replicas, hasher (Bytes.ofText (toString replica ++ peer)) = seat := by
  simp [claims, position, empty]

theorem sound_ofListing (hasher : Hasher) (replicas : Nat) (listing : List String) :
    (ofListing hasher replicas listing).Sound :=
  (sound_empty hasher replicas).add listing

theorem hasher_ofListing : (ofListing hasher replicas listing).hasher = hasher :=
  ((empty hasher replicas).alike_add listing).hasher

theorem ofListing_nil : ofListing hasher replicas [] = empty hasher replicas :=
  (sound_empty hasher replicas).add_nil

theorem getElem?_ofListing : (ofListing hasher replicas listing).owners[seat]? =
    firstClaimant? hasher replicas listing seat := by
  rw [ofListing, getElem?_add]
  simp [empty, firstClaimant?]

theorem mem_positions_ofListing : seat ∈ (ofListing hasher replicas listing).positions ↔
    ∃ peer ∈ listing, seat ∈ (empty hasher replicas).claims peer := by
  rw [(sound_ofListing hasher replicas listing).mem_positions_iff]
  simp only [getElem?_ofListing, ← Option.isSome_iff_exists, firstClaimant?, List.find?_isSome,
    decide_eq_true_eq]

/-- A key belongs to the peer that is named first among those that claim the position which serves
the key. -/
theorem owner?_ofListing_eq_some_iff : (ofListing hasher replicas listing).owner? key = some peer ↔
    ∃ seat, Serves (ofListing hasher replicas listing).positions (hasher (Bytes.ofText key)) seat ∧
      firstClaimant? hasher replicas listing seat = some peer := by
  rw [(sound_ofListing hasher replicas listing).owner?_eq_some_iff, hasher_ofListing]
  simp only [getElem?_ofListing]

theorem mem_of_owner?_ofListing
    (owns : (ofListing hasher replicas listing).owner? key = some peer) : peer ∈ listing := by
  obtain ⟨seat, -, first⟩ := owner?_ofListing_eq_some_iff.mp owns
  exact List.mem_of_find?_eq_some first

theorem firstClaimant?_cons {rest : List String}
    (claims : seat ∈ (empty hasher replicas).claims peer) :
    firstClaimant? hasher replicas (peer :: rest) seat = some peer :=
  List.find?_cons_of_pos (decide_eq_true claims)

/-- If only one peer of a list claims a position, it is the first that does. -/
theorem find?_claims_of_alone {ring : Ring} (member : peer ∈ listing)
    (claims : seat ∈ ring.claims peer)
    (alone : ∀ other ∈ listing, seat ∈ ring.claims other → other = peer) :
    (listing.find? fun other => seat ∈ ring.claims other) = some peer := by
  cases found : listing.find? fun other => seat ∈ ring.claims other with
  | none => exact absurd claims (by simpa using List.find?_eq_none.mp found peer member)
  | some first =>
    have claims' : seat ∈ ring.claims first := by simpa using List.find?_some found
    rw [alone first (List.mem_of_find?_eq_some found) claims']

/-- A ring of peers that have replicas is not empty. -/
theorem positions_ofListing_ne_nil (nonempty : listing ≠ []) (positive : 0 < replicas) :
    (ofListing hasher replicas listing).positions ≠ [] := by
  obtain ⟨peer, rest, rfl⟩ := List.exists_cons_of_ne_nil nonempty
  have claims : hasher (Bytes.ofText (toString 0 ++ peer)) ∈ (empty hasher replicas).claims peer :=
    mem_claims_empty.mpr ⟨0, positive, rfl⟩
  exact List.ne_nil_of_mem (mem_positions_ofListing.mpr ⟨peer, List.mem_cons_self, claims⟩)

theorem exists_owner?_ofListing (nonempty : listing ≠ []) (positive : 0 < replicas) (key : String) :
    ∃ peer, (ofListing hasher replicas listing).owner? key = some peer := by
  refine Option.ne_none_iff_exists'.mp ?_
  rw [ne_eq, (sound_ofListing hasher replicas listing).owner?_eq_none_iff]
  exact positions_ofListing_ne_nil nonempty positive

/-- The positions do not depend on the order of the list. -/
theorem positions_ofListing_eq (same : ∀ peer, peer ∈ listing ↔ peer ∈ other) :
    (ofListing hasher replicas listing).positions =
      (ofListing hasher replicas other).positions := by
  refine (sound_ofListing hasher replicas listing).increasing.eq_of_mem_iff
    (sound_ofListing hasher replicas other).increasing fun seat => ?_
  simp only [mem_positions_ofListing, same]

end PeerCache.Ring
