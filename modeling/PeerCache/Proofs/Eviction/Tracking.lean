import Mathlib
import PeerCache.Eviction.Tracker
import PeerCache.Proofs.Eviction.HeapOperations
import PeerCache.Proofs.Eviction.ListSequence

/-! # What trackers track

Whatever its policy, a tracker is described by the key that it tracks under each slot. A sound
tracker never faults on a slot that it handed out and has not taken back: it hands out a slot that
was not in use, a touch changes none of them, and the next victim is given up with its slot. The
order of eviction lists every tracked key once.
-/

namespace PeerCache.Eviction.Tracker

/-- The key that is tracked under a slot. -/
def keyAt? (tracker : Tracker) (slot : Nat) : Option String :=
  match tracker with
  | .lru keys | .fifo keys => keys.value? slot
  | .lfu keys => (keys.standing? slot).map Standing.key

/-- The container of a tracker is in order. -/
def Sound : Tracker → Prop
  | .lru keys | .fifo keys => ∃ places, keys.Represents places
  | .lfu keys => keys.Layout

theorem sound_empty (policy : Policy) : (empty policy).Sound := by
  cases policy with
  | lru => exact ⟨[], LinkedList.represents_empty⟩
  | fifo => exact ⟨[], LinkedList.represents_empty⟩
  | lfu => exact FrequencyHeap.layout_empty

theorem keyAt?_empty (policy : Policy) (slot : Nat) : (empty policy).keyAt? slot = none := by
  cases policy <;> rfl

/-! ## Lists of keys -/

section Lists

variable {keys : LinkedList String} {places : List (Nat × String)}

private theorem pushBack_values (represents : keys.Represents places) (key : String) :
    ∃ slot after, keys.pushBack key = .ok (slot, after) ∧ (∃ places, after.Represents places) ∧
      keys.value? slot = none ∧ after.value? = Function.update keys.value? slot (some key) := by
  obtain ⟨slot, after, pushed, represents'⟩ := LinkedList.pushBack_ok represents key
  have same := List.perm_append_singleton (slot, key) places
  obtain ⟨vacant, content⟩ := represents.value?_of_perm_cons represents' same
  exact ⟨slot, after, pushed, ⟨_, represents'⟩, vacant, content⟩

private theorem moveToBack_values (represents : keys.Represents places) {slot : Nat} {key : String}
    (tracked : keys.value? slot = some key) :
    ∃ after, keys.moveToBack slot = .ok after ∧ (∃ places, after.Represents places) ∧
      after.value? = keys.value? := by
  obtain ⟨left, right, rfl⟩ := List.append_of_mem (represents.value?_eq_some_iff.mp tracked)
  obtain ⟨after, moved, represents'⟩ := LinkedList.moveToBack_ok represents
  have same : (left ++ right ++ [(slot, key)]).Perm (left ++ (slot, key) :: right) := by
    rw [List.append_assoc]
    exact List.Perm.append_left left (List.perm_append_singleton _ _)
  exact ⟨after, moved, ⟨_, represents'⟩, represents.value?_of_perm represents' same⟩

theorem popFront_values {slot : Nat} {key : String} {rest : List (Nat × String)}
    (represents : keys.Represents ((slot, key) :: rest)) :
    ∃ after, keys.popFront = .ok (some (key, after)) ∧ after.Represents rest ∧
      keys.value? slot = some key ∧ after.value? = Function.update keys.value? slot none := by
  obtain ⟨after, popped, represents'⟩ := LinkedList.popFront_cons represents
  obtain ⟨vacated, content⟩ := represents'.value?_of_perm_cons represents (.refl _)
  refine ⟨after, popped, represents', ?_, ?_⟩
  · rw [content, Function.update_self]
  · rw [content, Function.update_idem, ← vacated, Function.update_eq_self]

private theorem popFront_places (represents : keys.Represents places) :
    (keys.popFront = .ok none ∧ ∀ slot, keys.value? slot = none) ∨
      ∃ slot key after, keys.value? slot = some key ∧
        keys.popFront = .ok (some (key, after)) ∧ (∃ places, after.Represents places) ∧
        after.value? = Function.update keys.value? slot none := by
  cases places with
  | nil =>
    refine .inl ⟨LinkedList.popFront_nil represents, ?_⟩
    intro slot
    by_contra full
    obtain ⟨value, held⟩ := Option.ne_none_iff_exists'.mp full
    have member := represents.value?_eq_some_iff.mp held
    contradiction
  | cons place rest =>
    obtain ⟨slot, key⟩ := place
    obtain ⟨after, popped, represents', tracked, content⟩ := popFront_values represents
    exact .inr ⟨slot, key, after, tracked, popped, ⟨rest, represents'⟩, content⟩

theorem toList_values (represents : keys.Represents places) :
    ∃ listed, keys.toList = .ok listed ∧
      (∀ slot, slot ∈ LinkedList.slots places ↔ keys.value? slot ≠ none) ∧
      (LinkedList.slots places).map keys.value? = listed.map some := by
  refine ⟨_, LinkedList.toList_ok represents, ?_, ?_⟩
  · intro slot
    simp only [Option.ne_none_iff_exists', represents.value?_eq_some_iff, LinkedList.slots,
      List.mem_map, Prod.exists, exists_and_right, exists_eq_right]
  · rw [LinkedList.slots, List.map_map, List.map_map]
    refine List.map_congr_left fun place member => ?_
    exact represents.value?_eq_some_iff.mpr member

end Lists

/-! ## Trackers -/

/-- A new key is tracked under a slot that was not in use. -/
theorem push_ok {tracker : Tracker} (sound : tracker.Sound) (key : String) :
    ∃ slot after, tracker.push key = .ok (slot, after) ∧ after.Sound ∧
      tracker.keyAt? slot = none ∧
      after.keyAt? = Function.update tracker.keyAt? slot (some key) ∧
      after.policy = tracker.policy := by
  cases tracker with
  | lru keys =>
    obtain ⟨places, represents⟩ := sound
    obtain ⟨slot, after, pushed, sound, vacant, content⟩ := pushBack_values represents key
    refine ⟨slot, .lru after, ?_, sound, vacant, content, rfl⟩
    simp [push, pushed, bind, Except.bind, pure, Except.pure]
  | fifo keys =>
    obtain ⟨places, represents⟩ := sound
    obtain ⟨slot, after, pushed, sound, vacant, content⟩ := pushBack_values represents key
    refine ⟨slot, .fifo after, ?_, sound, vacant, content, rfl⟩
    simp [push, pushed, bind, Except.bind, pure, Except.pure]
  | lfu keys =>
    obtain ⟨slot, after, pushed, layout, vacant, content, -⟩ := FrequencyHeap.push_ok sound key
    refine ⟨slot, .lfu after, ?_, layout, by simp [keyAt?, vacant], ?_, rfl⟩
    · simp [push, pushed, bind, Except.bind, pure, Except.pure]
    · funext other
      simp only [keyAt?, content, FrequencyHeap.map_update]
      rfl

/-- A touch goes to a slot in use, and changes no tracked key. -/
theorem touch_ok {tracker : Tracker} (sound : tracker.Sound) {slot : Nat} {key : String}
    (tracked : tracker.keyAt? slot = some key) :
    ∃ after, tracker.touch slot = .ok after ∧ after.Sound ∧ after.keyAt? = tracker.keyAt? ∧
      after.policy = tracker.policy := by
  cases tracker with
  | lru keys =>
    obtain ⟨places, represents⟩ := sound
    obtain ⟨after, moved, sound, content⟩ := moveToBack_values represents tracked
    refine ⟨.lru after, ?_, sound, content, rfl⟩
    simp [touch, moved, bind, Except.bind, pure, Except.pure]
  | fifo keys => exact ⟨.fifo keys, rfl, sound, rfl, rfl⟩
  | lfu keys =>
    obtain ⟨standing, stands, rfl⟩ := Option.map_eq_some_iff.mp tracked
    obtain ⟨after, bumped, layout, content, -⟩ := FrequencyHeap.bump_ok sound stands
    refine ⟨.lfu after, ?_, layout, ?_, rfl⟩
    · simp [touch, bumped, bind, Except.bind, pure, Except.pure]
    · funext other
      simp only [keyAt?, content, FrequencyHeap.map_update]
      by_cases same : other = slot
      · subst same
        simp [stands]
      · rw [Function.update_of_ne same]

/-- Nothing is tracked, or the next victim is given up together with its slot. -/
theorem pop_ok {tracker : Tracker} (sound : tracker.Sound) :
    (tracker.pop = .ok none ∧ ∀ slot, tracker.keyAt? slot = none) ∨
      ∃ slot key after, tracker.keyAt? slot = some key ∧
        tracker.pop = .ok (some (key, after)) ∧ after.Sound ∧
        after.keyAt? = Function.update tracker.keyAt? slot none ∧
        after.policy = tracker.policy := by
  cases tracker with
  | lru keys =>
    obtain ⟨places, represents⟩ := sound
    rcases popFront_places represents with ⟨nothing, unused⟩ |
      ⟨slot, key, after, tracked, popped, sound, content⟩
    · exact .inl ⟨by simp [pop, nothing, bind, Except.bind, pure, Except.pure], unused⟩
    · refine .inr ⟨slot, key, .lru after, tracked, ?_, sound, content, rfl⟩
      simp [pop, popped, bind, Except.bind, pure, Except.pure]
  | fifo keys =>
    obtain ⟨places, represents⟩ := sound
    rcases popFront_places represents with ⟨nothing, unused⟩ |
      ⟨slot, key, after, tracked, popped, sound, content⟩
    · exact .inl ⟨by simp [pop, nothing, bind, Except.bind, pure, Except.pure], unused⟩
    · refine .inr ⟨slot, key, .fifo after, tracked, ?_, sound, content, rfl⟩
      simp [pop, popped, bind, Except.bind, pure, Except.pure]
  | lfu keys =>
    rcases FrequencyHeap.pop_ok sound with ⟨nothing, unused⟩ |
      ⟨slot, standing, after, popped, layout, stands, content, -⟩
    · refine .inl ⟨by simp [pop, nothing, bind, Except.bind, pure, Except.pure], ?_⟩
      intro slot
      simp [keyAt?, unused slot]
    · refine .inr ⟨slot, standing.key, .lfu after, by simp [keyAt?, stands], ?_, layout, ?_, rfl⟩
      · simp [pop, popped, bind, Except.bind, pure, Except.pure]
      · funext other
        simp only [keyAt?, content, FrequencyHeap.map_update]
        rfl

theorem order_ok {tracker : Tracker} (sound : tracker.Sound) :
    ∃ (slots : List Nat) (keys : List String), tracker.order = .ok keys ∧ slots.Nodup ∧
      (∀ slot, slot ∈ slots ↔ tracker.keyAt? slot ≠ none) ∧
      (slots.map tracker.keyAt?).Perm (keys.map some) := by
  cases tracker with
  | lru keys =>
    obtain ⟨places, represents⟩ := sound
    obtain ⟨listed, ordered, used, same⟩ := toList_values represents
    exact ⟨_, listed, ordered, represents.nodup, used, .of_eq same⟩
  | fifo keys =>
    obtain ⟨places, represents⟩ := sound
    obtain ⟨listed, ordered, used, same⟩ := toList_values represents
    exact ⟨_, listed, ordered, represents.nodup, used, .of_eq same⟩
  | lfu keys =>
    obtain ⟨entries, ranked, same⟩ := FrequencyHeap.ranking_ok sound
    refine ⟨keys.heap.toList, entries.map Ranked.key, ?_, sound.toPlaced.nodup, ?_, ?_⟩
    · simp [order, FrequencyHeap.sorted, ranked, bind, Except.bind, pure, Except.pure]
    · intro slot
      rw [Array.mem_toList_iff, sound.mem_iff]
      simp [keyAt?]
    · have mapped := same.map (Option.map Standing.key)
      rw [List.map_map, List.map_map] at mapped
      rw [List.map_map]
      exact mapped

end PeerCache.Eviction.Tracker
