/-! # Faults

The containers of this library refer to each other by slot number, and the storage trusts its
eviction tracker to name only keys that it holds. Where such trust would be broken, an operation
answers with a fault instead of a made-up value. The theory of the library says that no reachable
state does.
-/

namespace PeerCache

/-- How an invariant of the library was found broken. -/
inductive Fault where
  /-- A slot number beyond the end of an arena. -/
  | outOfRange (slot : Nat)
  /-- A slot that is referred to and holds nothing. -/
  | vacant (slot : Nat)
  /-- A slot that is on the free list and holds something. -/
  | occupied (slot : Nat)
  /-- A position beyond the end of a heap. -/
  | misplaced (position : Nat)
  /-- A chain of links that does not end. -/
  | endless
  /-- A victim of eviction that is not indexed. -/
  | unindexed (key : String)
  /-- A count that would fall below zero. -/
  | underflow
  /-- An answer for a call that asked for nothing of the kind. -/
  | unasked (call : Nat)
  /-- A number that names nothing. -/
  | unknown (number : Nat)
  /-- A get that waits, through other nodes, for itself. -/
  | stalled
deriving DecidableEq, Repr

/-- A result, unless an invariant was found broken on the way. -/
abbrev Checked := Except Fault

instance decidableEqExcept {ε α : Type} [DecidableEq ε] [DecidableEq α] :
    DecidableEq (Except ε α)
  | .ok value, .ok other => decidable_of_iff (value = other) (by simp)
  | .error cause, .error other => decidable_of_iff (cause = other) (by simp)
  | .ok _, .error _ => isFalse nofun
  | .error _, .ok _ => isFalse nofun

namespace Checked

/-- One computation after another gives a result if both do. -/
theorem bind_eq_ok_iff {α β : Type} {first : Checked α} {next : α → Checked β} {result : β} :
    first >>= next = .ok result ↔ ∃ middle, first = .ok middle ∧ next middle = .ok result := by
  cases first <;> simp [bind, Except.bind]

/-- The difference of two counts, the second of which must not exceed the first. -/
def subtract (total part : Nat) : Checked Nat :=
  if part ≤ total then .ok (total - part) else .error .underflow

theorem subtract_eq_ok_iff {total part rest : Nat} :
    subtract total part = .ok rest ↔ rest + part = total := by
  unfold subtract
  split
  · simp only [Except.ok.injEq]
    omega
  · simp only [reduceCtorEq, false_iff]
    omega

end Checked

end PeerCache
