import Mathlib
import PeerCache.Proofs.Eviction.Tracking
import PeerCache.Storage.Run

/-! # Index and tracker

The weight of an index is that of its entries, and changes with each of them. The index and the
tracker of a storage hold the same keys, and each entry has the slot of its own key. `Indexed` says
so without a word about the usage, so that it also holds while a new entry is being made room for,
when the usage already counts a weight that no entry has yet.
-/

namespace PeerCache.Storage

open Eviction (Policy Tracker)

/-! ## Total weight -/

/-- The total weight of the entries of an index. -/
def total (index : Std.ExtTreeMap String Entry) : Nat :=
  (index.toList.map fun (key, entry) => weight key entry.value).sum

private theorem nodup_toList (index : Std.ExtTreeMap String Entry) : index.toList.Nodup := by
  refine index.distinct_keys_toList.imp ?_
  rintro first second distinct rfl
  exact distinct (by simp)

private theorem toList_perm_cons {larger smaller : Std.ExtTreeMap String Entry} {key : String}
    {entry : Entry} (here : larger[key]? = some entry) (gone : smaller[key]? = none)
    (elsewhere : ∀ other, other ≠ key → larger[other]? = smaller[other]?) :
    larger.toList.Perm ((key, entry) :: smaller.toList) := by
  have absent : (key, entry) ∉ smaller.toList := by
    simp [Std.ExtTreeMap.mem_toList_iff_getElem?_eq_some, gone]
  rw [List.perm_ext_iff_of_nodup (nodup_toList larger)
    (List.nodup_cons.mpr ⟨absent, nodup_toList smaller⟩)]
  rintro ⟨other, held⟩
  rw [List.mem_cons, Std.ExtTreeMap.mem_toList_iff_getElem?_eq_some,
    Std.ExtTreeMap.mem_toList_iff_getElem?_eq_some]
  by_cases same : other = key
  · subst same
    simp [here, gone, eq_comm]
  · simp [elsewhere other same, same]

private theorem total_eq_add {larger smaller : Std.ExtTreeMap String Entry} {key : String}
    {entry : Entry} (here : larger[key]? = some entry) (gone : smaller[key]? = none)
    (elsewhere : ∀ other, other ≠ key → larger[other]? = smaller[other]?) :
    total larger = weight key entry.value + total smaller := by
  rw [total, ((toList_perm_cons here gone elsewhere).map _).sum_eq, List.map_cons, List.sum_cons,
    total]

theorem getElem?_erase_of_ne {index : Std.ExtTreeMap String Entry} {key other : String}
    (distinct : other ≠ key) : (index.erase key)[other]? = index[other]? := by
  rw [Std.ExtTreeMap.getElem?_erase, if_neg]
  simpa using distinct.symm

theorem getElem?_insert_of_ne {index : Std.ExtTreeMap String Entry} {key other : String}
    (distinct : other ≠ key) (entry : Entry) :
    (index.insert key entry)[other]? = index[other]? := by
  rw [Std.ExtTreeMap.getElem?_insert, if_neg]
  simpa using distinct.symm

/-- An entry that is taken out of an index takes its weight along. -/
theorem total_erase {index : Std.ExtTreeMap String Entry} {key : String} {entry : Entry}
    (found : index[key]? = some entry) :
    total index = weight key entry.value + total (index.erase key) :=
  total_eq_add found Std.ExtTreeMap.getElem?_erase_self fun _ distinct =>
    (getElem?_erase_of_ne distinct).symm

/-- An entry that is put into an index, in the place of any other of its key, brings its weight. -/
theorem total_insert (index : Std.ExtTreeMap String Entry) (key : String) (entry : Entry) :
    total (index.insert key entry) = weight key entry.value + total (index.erase key) :=
  total_eq_add Std.ExtTreeMap.getElem?_insert_self Std.ExtTreeMap.getElem?_erase_self
    fun _ distinct => by rw [getElem?_insert_of_ne distinct, getElem?_erase_of_ne distinct]

theorem total_empty : total ∅ = 0 := by
  rw [total, Std.ExtTreeMap.toList_eq_nil_iff.mpr rfl]
  rfl

theorem erase_of_absent {index : Std.ExtTreeMap String Entry} {key : String}
    (absent : index[key]? = none) : index.erase key = index := by
  apply Std.ExtTreeMap.ext_getElem?
  intro other
  by_cases same : other = key
  · rw [same, Std.ExtTreeMap.getElem?_erase_self, absent]
  · exact getElem?_erase_of_ne same

/-! ## Index and tracker -/

/-- The tracker is in order, and tracks under each slot the key whose entry has that slot. -/
structure Indexed (index : Std.ExtTreeMap String Entry) (tracker : Tracker) : Prop where
  sound : tracker.Sound
  designates : ∀ slot key, tracker.keyAt? slot = some key ↔
    ∃ entry, index[key]? = some entry ∧ entry.slot = slot

theorem indexed_empty (policy : Policy) : Indexed ∅ (.empty policy) where
  sound := Tracker.sound_empty policy
  designates := by simp [Tracker.keyAt?_empty]

/-- The tracker names a stored key as the next victim, unless nothing is stored. -/
theorem Indexed.pop {index : Std.ExtTreeMap String Entry} {tracker : Tracker}
    (indexed : Indexed index tracker) :
    (tracker.pop = .ok none ∧ index = ∅) ∨
      ∃ key entry after, tracker.pop = .ok (some (key, after)) ∧ index[key]? = some entry ∧
        Indexed (index.erase key) after ∧ after.policy = tracker.policy := by
  rcases Tracker.pop_ok indexed.sound with ⟨nothing, unused⟩ |
    ⟨slot, key, after, tracked, popped, sound, content, policy⟩
  · refine .inl ⟨nothing, Std.ExtTreeMap.ext_getElem? fun key => ?_⟩
    cases found : index[key]? with
    | none => simp
    | some entry =>
      have tracked := (indexed.designates entry.slot key).mpr ⟨entry, found, rfl⟩
      rw [unused] at tracked
      cases tracked
  · obtain ⟨entry, found, same⟩ := (indexed.designates slot key).mp tracked
    refine .inr ⟨key, entry, after, popped, found, ⟨sound, ?_⟩, policy⟩
    intro other key'
    rw [content]
    by_cases sameKey : key' = key
    · subst sameKey
      rw [Std.ExtTreeMap.getElem?_erase_self]
      by_cases sameSlot : other = slot
      · simp [sameSlot]
      · rw [Function.update_of_ne sameSlot, indexed.designates, found]
        simpa [same] using fun equal => sameSlot equal.symm
    · rw [getElem?_erase_of_ne sameKey]
      by_cases sameSlot : other = slot
      · subst sameSlot
        simp only [Function.update_self, reduceCtorEq, false_iff]
        rw [← indexed.designates, tracked, Option.some.injEq]
        exact fun equal => sameKey equal.symm
      · rw [Function.update_of_ne sameSlot, indexed.designates]

/-- A key that was absent is tracked under the slot that its entry gets. -/
theorem Indexed.push {index : Std.ExtTreeMap String Entry} {tracker : Tracker}
    (indexed : Indexed index tracker) {key : String} (absent : index[key]? = none)
    (value : Bytes) :
    ∃ slot after, tracker.push key = .ok (slot, after) ∧
      Indexed (index.insert key ⟨value, slot⟩) after ∧ after.policy = tracker.policy := by
  obtain ⟨slot, after, pushed, sound, vacant, content, policy⟩ :=
    Tracker.push_ok indexed.sound key
  refine ⟨slot, after, pushed, ⟨sound, ?_⟩, policy⟩
  intro other key'
  rw [content]
  by_cases sameKey : key' = key
  · subst sameKey
    rw [Std.ExtTreeMap.getElem?_insert_self]
    by_cases sameSlot : other = slot
    · simp [sameSlot]
    · rw [Function.update_of_ne sameSlot, indexed.designates, absent]
      simpa using fun equal => sameSlot equal.symm
  · rw [getElem?_insert_of_ne sameKey]
    by_cases sameSlot : other = slot
    · subst sameSlot
      rw [Function.update_self, ← indexed.designates, vacant]
      simpa using fun equal => sameKey equal.symm
    · rw [Function.update_of_ne sameSlot, indexed.designates]

/-- A stored key can be touched and given another value. -/
theorem Indexed.touch {index : Std.ExtTreeMap String Entry} {tracker : Tracker}
    (indexed : Indexed index tracker) {key : String} {entry : Entry}
    (found : index[key]? = some entry) (value : Bytes) :
    ∃ after, tracker.touch entry.slot = .ok after ∧ Indexed index after ∧
      Indexed (index.insert key { entry with value }) after ∧ after.policy = tracker.policy := by
  have tracked := (indexed.designates entry.slot key).mpr ⟨entry, found, rfl⟩
  obtain ⟨after, touched, sound, content, policy⟩ := Tracker.touch_ok indexed.sound tracked
  refine ⟨after, touched, ⟨sound, fun slot key => by rw [content, indexed.designates]⟩,
    ⟨sound, ?_⟩, policy⟩
  intro slot key'
  rw [content, indexed.designates]
  by_cases same : key' = key
  · subst same
    simp [found]
  · rw [getElem?_insert_of_ne same]

/-- The order of eviction lists the keys of the index, each once. -/
theorem Indexed.order {index : Std.ExtTreeMap String Entry} {tracker : Tracker}
    (indexed : Indexed index tracker) :
    ∃ keys, tracker.order = .ok keys ∧ keys.Nodup ∧ ∀ key, key ∈ keys ↔ key ∈ index := by
  obtain ⟨slots, keys, ordered, nodup, used, listed⟩ := Tracker.order_ok indexed.sound
  refine ⟨keys, ordered, ?_, ?_⟩
  · have distinct : (slots.map tracker.keyAt?).Nodup := by
      refine nodup.map_on ?_
      intro first inFirst second inSecond same
      obtain ⟨key, tracked⟩ := Option.ne_none_iff_exists'.mp ((used first).mp inFirst)
      obtain ⟨entry, found, rfl⟩ := (indexed.designates first key).mp tracked
      obtain ⟨entry', found', rfl⟩ := (indexed.designates second key).mp (same ▸ tracked)
      rw [found, Option.some.injEq] at found'
      rw [found']
    exact List.Nodup.of_map _ (listed.nodup_iff.mp distinct)
  · intro key
    have member : some key ∈ keys.map some ↔ key ∈ keys := by simp
    rw [← member, ← listed.mem_iff, List.mem_map]
    constructor
    · rintro ⟨slot, -, tracked⟩
      obtain ⟨entry, found, -⟩ := (indexed.designates slot key).mp tracked
      rw [Std.ExtTreeMap.mem_iff_isSome_getElem?, found]
      rfl
    · intro present
      rw [Std.ExtTreeMap.mem_iff_isSome_getElem?] at present
      obtain ⟨entry, found⟩ := Option.isSome_iff_exists.mp present
      have tracked := (indexed.designates entry.slot key).mpr ⟨entry, found, rfl⟩
      exact ⟨entry.slot, (used _).mpr (by simp [tracked]), tracked⟩

end PeerCache.Storage
