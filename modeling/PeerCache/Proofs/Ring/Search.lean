import Mathlib
import PeerCache.Ring.Run

/-! # Searching a ring

Halving a stretch of increasing positions ends where those below a hash end. So the position that
serves a hash is the first one that is not below it, or the first of all if there is none, and a
position that is to be taken back is found where it is.
-/

namespace PeerCache.Ring

/-- The position that serves a hash. -/
inductive Serves (positions : List UInt32) (hash seat : UInt32) : Prop
  /-- It is the smallest one that is not below the hash. -/
  | ahead (listed : seat ∈ positions) (reached : hash ≤ seat)
      (first : ∀ other ∈ positions, hash ≤ other → seat ≤ other)
  /-- All are below the hash, and it is the smallest of all. -/
  | around (listed : seat ∈ positions) (passed : ∀ other ∈ positions, other < hash)
      (first : ∀ other ∈ positions, seat ≤ other)

namespace Serves

variable {positions fewer : List UInt32} {hash seat other : UInt32}

theorem listed (serves : Serves positions hash seat) : seat ∈ positions := by
  cases serves <;> assumption

/-- Only one position serves a hash. -/
theorem unique (serves : Serves positions hash seat) (serves' : Serves positions hash other) :
    seat = other := by
  cases serves with
  | ahead listed reached first =>
    cases serves' with
    | ahead listed' reached' first' =>
      exact UInt32.le_antisymm (first other listed' reached') (first' seat listed reached)
    | around listed' passed first' =>
      exact absurd (passed seat listed) (UInt32.not_lt.mpr reached)
  | around listed passed first =>
    cases serves' with
    | ahead listed' reached first' =>
      exact absurd (passed other listed') (UInt32.not_lt.mpr reached)
    | around listed' passed' first' =>
      exact UInt32.le_antisymm (first other listed') (first' seat listed)

/-- The position that serves a hash among many serves it among fewer if it is one of them. -/
theorem of_subset (serves : Serves positions hash seat) (subset : fewer ⊆ positions)
    (listed : seat ∈ fewer) : Serves fewer hash seat := by
  cases serves with
  | ahead _ reached first =>
    exact .ahead listed reached fun other member => first other (subset member)
  | around _ passed first =>
    exact .around listed (fun other member => passed other (subset member))
      fun other member => first other (subset member)

end Serves

/-! ## Halving -/

/-- What is in front of a stretch of positions is below a hash, and what is behind it is not. -/
structure Brackets (positions : List UInt32) (hash : UInt32) (low high : Nat) : Prop where
  ordered : low ≤ high
  bounded : high ≤ positions.length
  below : ∀ index position, index < low → positions[index]? = some position → position < hash
  beyond : ∀ index position, high ≤ index → positions[index]? = some position → hash ≤ position

section Halving

variable {positions : List UInt32} {hash seat other : UInt32} {low high index : Nat}

/-- Increasing positions are ordered by their indices. -/
private theorem le_of_index_le (increasing : positions.Pairwise (· < ·)) {early late : Nat}
    (order : early ≤ late) (here : positions[early]? = some seat)
    (there : positions[late]? = some other) : seat ≤ other := by
  obtain ⟨bound, rfl⟩ := List.getElem?_eq_some_iff.mp here
  obtain ⟨bound', rfl⟩ := List.getElem?_eq_some_iff.mp there
  rcases Nat.lt_or_eq_of_le order with before | rfl
  · exact UInt32.le_of_lt (List.pairwise_iff_getElem.mp increasing early late bound bound' before)
  · exact UInt32.le_refl _

/-- A stretch that is not empty has a position in the middle. -/
private theorem Brackets.middle (brackets : Brackets positions hash low high) (more : low < high) :
    ∃ position, positions[(low + high) / 2]? = some position := by
  have bounded := brackets.bounded
  have inside : (low + high) / 2 < positions.length := by omega
  exact ⟨_, List.getElem?_eq_getElem inside⟩

/-- Halving ends where the positions below the hash end. -/
theorem brackets_bisect (increasing : positions.Pairwise (· < ·))
    (brackets : Brackets positions hash low high) :
    Brackets positions hash (bisect positions hash low high)
      (bisect positions hash low high) := by
  fun_induction bisect positions hash low high with
  | case1 low high more middle small ih =>
    obtain ⟨pivot, found⟩ : ∃ position, positions[middle]? = some position := brackets.middle more
    rw [found, Option.any_some, decide_eq_true_eq] at small
    refine ih ⟨by omega, brackets.bounded, ?_, brackets.beyond⟩
    intro index position before here
    exact UInt32.lt_of_le_of_lt
      (le_of_index_le increasing (Nat.le_of_lt_succ before) here found) small
  | case2 low high more middle large ih =>
    obtain ⟨pivot, found⟩ : ∃ position, positions[middle]? = some position := brackets.middle more
    rw [found, Option.any_some, decide_eq_true_eq, UInt32.not_lt] at large
    refine ih ⟨by omega, ?_, brackets.below, ?_⟩
    · exact (List.getElem?_eq_some_iff.mp found).1.le
    · intro index position behind here
      exact UInt32.le_trans large (le_of_index_le increasing behind found here)
  | case3 low high done =>
    obtain rfl : low = high := Nat.le_antisymm brackets.ordered (Nat.le_of_not_lt done)
    exact brackets

variable {ring : Ring}

/-- The rank of a hash is where the positions below it end. -/
theorem brackets_rank (increasing : ring.positions.Pairwise (· < ·)) (hash : UInt32) :
    Brackets ring.positions hash (ring.rank hash) (ring.rank hash) := by
  refine brackets_bisect increasing ⟨Nat.zero_le _, Nat.le_refl _, ?_, ?_⟩
  · intro index position before
    exact absurd before (Nat.not_lt_zero index)
  · intro index position behind here
    rw [List.getElem?_eq_none behind] at here
    cases here

/-- The position at the rank of a hash is the smallest one that is not below it. -/
theorem Brackets.ahead (brackets : Brackets positions hash index index)
    (increasing : positions.Pairwise (· < ·)) (here : positions[index]? = some seat) :
    Serves positions hash seat := by
  refine .ahead (List.mem_of_getElem? here) (brackets.beyond index seat (Nat.le_refl _) here) ?_
  intro other member reached
  obtain ⟨place, there⟩ := List.mem_iff_getElem?.mp member
  refine le_of_index_le increasing (Nat.le_of_not_lt fun before => ?_) here there
  exact UInt32.not_lt.mpr reached (brackets.below place other before there)

/-- Only an empty ring has no position for a hash. -/
theorem seat?_eq_none_iff (ring : Ring) (hash : UInt32) :
    ring.seat? hash = none ↔ ring.positions = [] := by
  unfold seat?
  split
  · next empty => simpa [isEmpty] using empty
  · next full =>
    rw [isEmpty, List.isEmpty_iff] at full
    have bound : ring.rank hash % ring.size < ring.positions.length :=
      Nat.mod_lt _ (List.length_pos_iff.mpr full)
    simp [List.getElem?_eq_getElem bound, full]

/-- The position found for a hash is the one that serves it. -/
theorem serves_of_seat? (increasing : ring.positions.Pairwise (· < ·))
    (found : ring.seat? hash = some seat) : Serves ring.positions hash seat := by
  have brackets := brackets_rank increasing hash
  unfold seat? at found
  split at found
  · cases found
  · rcases Nat.lt_or_eq_of_le brackets.bounded with inside | past
    · rw [size, Nat.mod_eq_of_lt inside] at found
      exact brackets.ahead increasing found
    · rw [size, past, Nat.mod_self] at found
      refine .around (List.mem_of_getElem? found) ?_ ?_
      · intro other member
        obtain ⟨place, there⟩ := List.mem_iff_getElem?.mp member
        obtain ⟨bound, -⟩ := List.getElem?_eq_some_iff.mp there
        exact brackets.below place other (past ▸ bound) there
      · intro other member
        obtain ⟨place, there⟩ := List.mem_iff_getElem?.mp member
        exact le_of_index_le increasing (Nat.zero_le place) found there

theorem seat?_eq_some_iff (increasing : ring.positions.Pairwise (· < ·)) :
    ring.seat? hash = some seat ↔ Serves ring.positions hash seat := by
  refine ⟨serves_of_seat? increasing, fun serves => ?_⟩
  cases found : ring.seat? hash with
  | none =>
    rw [seat?_eq_none_iff] at found
    have listed := serves.listed
    rw [found] at listed
    cases listed
  | some seat => rw [(serves_of_seat? increasing found).unique serves]

/-- A position that is on the ring is found at its rank. -/
theorem getElem?_rank (increasing : ring.positions.Pairwise (· < ·))
    (listed : seat ∈ ring.positions) : ring.positions[ring.rank seat]? = some seat := by
  have brackets := brackets_rank increasing seat
  obtain ⟨place, there⟩ := List.mem_iff_getElem?.mp listed
  have reached : ring.rank seat ≤ place := Nat.le_of_not_lt fun before =>
    UInt32.lt_irrefl seat (brackets.below place seat before there)
  have inside : ring.rank seat < ring.positions.length :=
    Nat.lt_of_le_of_lt reached (List.getElem?_eq_some_iff.mp there).1
  have here := List.getElem?_eq_getElem inside
  rw [here, UInt32.le_antisymm (le_of_index_le increasing reached here there)
    (brackets.beyond _ _ (Nat.le_refl _) here)]

/-- A position that is taken back is erased. -/
theorem positions_vacate (increasing : ring.positions.Pairwise (· < ·)) {peer : String}
    (listed : seat ∈ ring.positions) (owned : ring.owners[seat]? = some peer) :
    (ring.vacate peer seat).positions = ring.positions.erase seat := by
  have here := getElem?_rank increasing listed
  obtain ⟨inside, same⟩ := List.getElem?_eq_some_iff.mp here
  have nodup : ring.positions.Nodup := increasing.imp fun {_ _} => UInt32.ne_of_lt
  have place : ring.positions.idxOf seat = ring.rank seat := by
    conv_lhs => rw [← same]
    exact nodup.idxOf_getElem _ inside
  rw [vacate, if_pos owned, ← List.eraseIdx_idxOf_eq_erase, place]
  exact if_pos here

end Halving

end PeerCache.Ring
