import Mathlib
import PeerCache.Eviction.Arena

/-! # What an arena does to its slots

Every operation is described by its effect on `get?`, the content of each slot. An arena is tidy if
its free list holds exactly the vacant slots, each once. A tidy arena never faults on an occupied
slot or on an insertion, and a slot that is handed out was vacant before.
-/

namespace PeerCache.Eviction.Arena

variable {α : Type}

/-- The free list holds exactly the vacant slots, each once. -/
structure Tidy (arena : Arena α) : Prop where
  nodup : arena.free.Nodup
  vacant : ∀ slot, slot ∈ arena.free ↔ slot < arena.size ∧ arena.get? slot = none

theorem tidy_empty : ({} : Arena α).Tidy where
  nodup := List.nodup_nil
  vacant := by simp [size]

theorem get?_empty (slot : Nat) : ({} : Arena α).get? slot = none := rfl

theorem lt_size_of_get? {arena : Arena α} {slot : Nat} {element : α}
    (found : arena.get? slot = some element) : slot < arena.size := by
  by_contra beyond
  have missing : arena.slots[slot]? = none := Array.getElem?_eq_none (Nat.le_of_not_lt beyond)
  simp [get?, missing] at found

private theorem get?_setIfInBounds {arena : Arena α} {slot : Nat} (within : slot < arena.size)
    (content : Option α) (free : List Nat) :
    (⟨arena.slots.setIfInBounds slot content, free⟩ : Arena α).get? =
      Function.update arena.get? slot content := by
  funext other
  by_cases same : other = slot
  · subst same
    simp [get?, show other < arena.slots.size from within]
  · have apart : slot ≠ other := fun equal => same equal.symm
    simp [get?, apart, Function.update_of_ne same]

/-- An occupied slot can be changed in place, and nothing else changes. -/
theorem modify_ok {arena : Arena α} (tidy : arena.Tidy) {slot : Nat} {element : α}
    (found : arena.get? slot = some element) (change : α → α) :
    ∃ after, arena.modify slot change = .ok after ∧ after.Tidy ∧
      after.get? = Function.update arena.get? slot (some (change element)) := by
  have read := read_eq_ok_iff.mpr found
  have within := lt_size_of_get? found
  have content := get?_setIfInBounds within (some (change element)) arena.free
  refine ⟨⟨arena.slots.setIfInBounds slot (some (change element)), arena.free⟩,
    by simp [modify, read, bind, Except.bind, pure, Except.pure], ⟨tidy.nodup, ?_⟩, content⟩
  intro other
  have before := tidy.vacant other
  rw [content]
  by_cases same : other = slot
  · subst same
    simp [found] at before
    simp [before]
  · simpa [size, Function.update_of_ne same] using before

/-- An occupied slot can be vacated, and nothing else changes. -/
theorem release_ok {arena : Arena α} (tidy : arena.Tidy) {slot : Nat} {element : α}
    (found : arena.get? slot = some element) :
    ∃ after, arena.release slot = .ok (element, after) ∧ after.Tidy ∧
      after.get? = Function.update arena.get? slot none := by
  have read := read_eq_ok_iff.mpr found
  have within := lt_size_of_get? found
  have content := get?_setIfInBounds within none (slot :: arena.free)
  have occupied : slot ∉ arena.free := by simp [tidy.vacant, found]
  refine ⟨⟨arena.slots.setIfInBounds slot none, slot :: arena.free⟩,
    by simp [release, read, bind, Except.bind, pure, Except.pure],
    ⟨List.nodup_cons.mpr ⟨occupied, tidy.nodup⟩, ?_⟩, content⟩
  intro other
  have before := tidy.vacant other
  rw [content]
  by_cases same : other = slot
  · subst same
    simpa [size] using within
  · simpa [size, same, Function.update_of_ne same] using before

/-- An insertion fills a vacant slot, old or new, and nothing else changes. -/
theorem insert_ok {arena : Arena α} (tidy : arena.Tidy) (element : α) :
    ∃ slot after, arena.insert element = .ok (slot, after) ∧ after.Tidy ∧
      arena.get? slot = none ∧ after.get? = Function.update arena.get? slot (some element) := by
  cases free : arena.free with
  | nil =>
    have fresh : arena.get? arena.size = none := by simp [get?, size]
    have content : ({ arena with slots := arena.slots.push (some element) } : Arena α).get? =
        Function.update arena.get? arena.size (some element) := by
      funext other
      by_cases same : other = arena.size
      · subst same
        simp [get?, size]
      · rw [Function.update_of_ne same]
        simp [get?, Array.getElem?_push, show other ≠ arena.slots.size from same]
    refine ⟨arena.size, _, by simp only [insert, free], ⟨by simp [free], ?_⟩, fresh, content⟩
    intro other
    have before := tidy.vacant other
    rw [content]
    by_cases same : other = arena.size
    · subst same
      simp [free]
    · rw [Function.update_of_ne same]
      simp only [free, List.not_mem_nil, false_iff, not_and] at before ⊢
      intro below
      exact before (by simp only [size, Array.size_push] at below same ⊢; omega)
  | cons slot free' =>
    have listed : slot ∈ arena.free := by simp [free]
    obtain ⟨within, vacant⟩ := (tidy.vacant slot).mp listed
    have content := get?_setIfInBounds within (some element) free'
    have nodup : slot ∉ free' ∧ free'.Nodup := by simpa [free] using tidy.nodup
    have inserted : arena.insert element =
        .ok (slot, ⟨arena.slots.setIfInBounds slot (some element), free'⟩) := by
      have hole : arena.slots[slot]? = some none := by
        have bound : slot < arena.slots.size := within
        simpa [get?, bound] using vacant
      simp [insert, free, hole]
    refine ⟨slot, _, inserted, ⟨nodup.2, ?_⟩, vacant, content⟩
    intro other
    have before := tidy.vacant other
    rw [content]
    by_cases same : other = slot
    · subst same
      simp [nodup.1]
    · simpa [size, free, same, Function.update_of_ne same] using before

end PeerCache.Eviction.Arena
