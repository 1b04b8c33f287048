import PeerCache.Proofs.Storage.Indexing

/-! # Consistency of a storage

The usage of a storage is the total weight of its entries and stays within the budget. Eviction
keeps index and tracker together for any surplus of the usage, so that one lemma serves both of its
uses in an insertion. No run from an empty storage ever faults.
-/

namespace PeerCache.Storage

open Eviction (Policy Tracker)

/-! ## Eviction -/

/-- What eviction does: the storage meets its budget or is empty, and it has lost the entries that
left, each with the value that it had. -/
structure Evicts (storage after : Storage) (departures : List Departure) : Prop where
  plan : after.plan = storage.plan
  met : after.overBudget = false ∨ after.index = ∅
  left : ∀ departure ∈ departures,
    storage.index[departure.key]?.map Entry.value = some departure.value
  nodup : (departures.map Departure.key).Nodup
  kept : ∀ key, after.index[key]? =
    if key ∈ departures.map Departure.key then none else storage.index[key]?

private theorem evict_of_within {storage : Storage} (within : storage.overBudget = false) :
    storage.evict = .ok ([], storage) := by
  rw [evict, within]
  rfl

private theorem evict_of_empty {storage : Storage} (nothing : storage.tracker.pop = .ok none) :
    storage.evict = .ok ([], storage) := by
  rw [evict]
  split
  · simp [nothing, bind, Except.bind, pure, Except.pure]
  · rfl

private theorem evict_of_over {storage : Storage} (exceeds : storage.overBudget = true)
    {key : String} {entry : Entry} {tracker : Tracker}
    (popped : storage.tracker.pop = .ok (some (key, tracker)))
    (found : storage.index[key]? = some entry) {usage : Nat}
    (subtracted : Checked.subtract storage.usage (weight key entry.value) = .ok usage)
    {later : List Departure} {after : Storage}
    (rest : evict { storage with index := storage.index.erase key, tracker, usage } =
      .ok (later, after)) :
    storage.evict = .ok (⟨key, entry.value⟩ :: later, after) := by
  rw [evict, if_pos exceeds]
  simp only [popped, bind, Except.bind]
  split
  · next missing => simp [found] at missing
  · next entry' found' =>
    rw [found, Option.some.injEq] at found'
    subst found'
    simp [subtracted, rest, pure, Except.pure]

private theorem Evicts.nil {storage : Storage}
    (met : storage.overBudget = false ∨ storage.index = ∅) :
    Evicts storage storage [] :=
  ⟨rfl, met, by simp, by simp, by simp⟩

private theorem Evicts.cons {storage next after : Storage} {key : String} {entry : Entry}
    {later : List Departure} (evicts : Evicts next after later)
    (found : storage.index[key]? = some entry) (index : next.index = storage.index.erase key)
    (plan : next.plan = storage.plan) :
    Evicts storage after (⟨key, entry.value⟩ :: later) := by
  have gone : next.index[key]? = none := by
    rw [index]
    exact Std.ExtTreeMap.getElem?_erase_self
  have elsewhere (other : String) (distinct : other ≠ key) :
      next.index[other]? = storage.index[other]? := by
    rw [index]
    exact getElem?_erase_of_ne distinct
  refine ⟨evicts.plan.trans plan, evicts.met, ?_, ?_, ?_⟩
  · intro departure member
    rcases List.mem_cons.mp member with rfl | member
    · simp [found]
    · have held := evicts.left departure member
      by_cases same : departure.key = key
      · simp [same, gone] at held
      · rwa [elsewhere _ same] at held
  · rw [List.map_cons, List.nodup_cons]
    refine ⟨fun member => ?_, evicts.nodup⟩
    obtain ⟨departure, member, same⟩ := List.mem_map.mp member
    have held := evicts.left departure member
    simp [show departure.key = key from same, gone] at held
  · intro other
    rw [evicts.kept other, List.map_cons]
    by_cases same : other = key
    · simp [same, gone]
    · simp [same, elsewhere other same]

/-- Eviction never faults, whatever the usage counts beyond the weight of the entries. -/
theorem evict_ok {storage : Storage} (indexed : Indexed storage.index storage.tracker)
    {surplus : Nat} (usage : storage.usage = total storage.index + surplus) :
    ∃ departures after, storage.evict = .ok (departures, after) ∧
      Indexed after.index after.tracker ∧ after.usage = total after.index + surplus ∧
      Evicts storage after departures := by
  induction size : storage.index.size using Nat.strong_induction_on generalizing storage with
  | h size' ih =>
    cases exceeds : storage.overBudget with
    | false => exact ⟨[], storage, evict_of_within exceeds, indexed, usage, .nil (.inl exceeds)⟩
    | true =>
      rcases indexed.pop with ⟨nothing, empty⟩ | ⟨key, entry, tracker, popped, found, indexed', -⟩
      · exact ⟨[], storage, evict_of_empty nothing, indexed, usage, .nil (.inr empty)⟩
      · have smaller := size_erase_lt found
        have lighter := total_erase found
        let next : Storage := { storage with
          index := storage.index.erase key
          tracker
          usage := total (storage.index.erase key) + surplus }
        have nextIndexed : Indexed next.index next.tracker := indexed'
        obtain ⟨later, after, rest, indexed'', usage', evicts⟩ :=
          ih next.index.size (size ▸ smaller) nextIndexed rfl rfl
        refine ⟨_, after, evict_of_over exceeds popped found ?_ rest, indexed'', usage',
          evicts.cons found rfl rfl⟩
        rw [Checked.subtract_eq_ok_iff, usage]
        omega

/-! ## Operations -/

/-- Index and tracker agree, the usage is the weight of the entries, and the budget is met. -/
structure Sound (storage : Storage) : Prop where
  indexed : Indexed storage.index storage.tracker
  usage : storage.usage = total storage.index
  within : storage.overBudget = false

theorem overBudget_eq_false_iff {storage : Storage} :
    storage.overBudget = false ↔ (0 < storage.capacity → storage.usage ≤ storage.capacity) := by
  rw [overBudget, Bool.and_eq_false_imp]
  simp

theorem sound_build (plan : Plan) : plan.build.Sound where
  indexed := indexed_empty plan.policy
  usage := total_empty.symm
  within := overBudget_eq_false_iff.mpr fun _ => Nat.zero_le _

/-- Eviction without a surplus ends within the budget. -/
theorem evict_sound {storage : Storage} (indexed : Indexed storage.index storage.tracker)
    (usage : storage.usage = total storage.index) :
    ∃ departures after, storage.evict = .ok (departures, after) ∧ after.Sound ∧
      Evicts storage after departures := by
  obtain ⟨departures, after, evicted, indexed', usage', evicts⟩ :=
    evict_ok indexed (usage.trans (Nat.add_zero _).symm)
  refine ⟨departures, after, evicted, ⟨indexed', usage', ?_⟩, evicts⟩
  rcases evicts.met with within | empty
  · exact within
  · rw [overBudget_eq_false_iff, usage', empty, total_empty]
    exact fun _ => Nat.zero_le _

/-- Reading a key answers its value and keeps every entry. -/
theorem get_ok {storage : Storage} (sound : storage.Sound) (key : String) :
    ∃ tracker, storage.get key = .ok (storage.peek key, { storage with tracker }) ∧
      Sound { storage with tracker } := by
  cases found : storage.index[key]? with
  | none =>
    refine ⟨storage.tracker, ?_, sound⟩
    simp only [get, peek, found]
    rfl
  | some entry =>
    obtain ⟨tracker, touched, indexed, -, -⟩ := sound.indexed.touch found entry.value
    refine ⟨tracker, ?_, indexed, sound.usage, sound.within⟩
    simp only [get, peek, found, touched, bind, Except.bind]
    rfl

/-- What an insertion or an overwrite does: the key has its new value, and then entries leave. -/
structure Adds (storage after : Storage) (key : String) (value : Bytes)
    (departures : List Departure) : Prop where
  plan : after.plan = storage.plan
  peek : ∀ other, after.peek other =
    if other ∈ departures.map Departure.key then none
    else if other = key then some value else storage.peek other

private theorem overwrite_ok {storage : Storage} (sound : storage.Sound) {key : String}
    {entry : Entry} (found : storage.index[key]? = some entry) (value : Bytes) :
    ∃ departures after, storage.overwrite key entry value = .ok (departures, after) ∧
      after.Sound ∧ Adds storage after key value departures := by
  have lighter := total_erase found
  have heavier := total_insert storage.index key { entry with value }
  simp only [weight] at lighter heavier
  obtain ⟨tracker, touched, -, indexed, -⟩ := sound.indexed.touch found value
  have subtracted : Checked.subtract storage.usage entry.value.length =
      .ok (storage.usage - entry.value.length) := by
    rw [Checked.subtract_eq_ok_iff, sound.usage]
    omega
  let renewed : Storage := { storage with
    index := storage.index.insert key { entry with value }
    tracker
    usage := storage.usage - entry.value.length + value.length }
  have usage : renewed.usage = total renewed.index := by
    simp only [renewed]
    rw [heavier, sound.usage]
    omega
  have renewedIndexed : Indexed renewed.index renewed.tracker := indexed
  obtain ⟨departures, after, evicted, sound', evicts⟩ := evict_sound renewedIndexed usage
  refine ⟨departures, after, ?_, sound', evicts.plan, ?_⟩
  · simp only [overwrite, subtracted, touched, bind, Except.bind]
    exact evicted
  · intro other
    simp only [Storage.peek, evicts.kept]
    by_cases departed : other ∈ departures.map Departure.key
    · simp only [if_pos departed, Option.map_none]
    · rw [if_neg departed, if_neg departed]
      by_cases same : other = key
      · simp [renewed, same]
      · rw [if_neg same]
        simp only [renewed, getElem?_insert_of_ne same]

private theorem insertNew_ok {storage : Storage} (sound : storage.Sound) {key : String}
    (absent : storage.index[key]? = none) (value : Bytes) :
    ∃ departures after, storage.insertNew key value = .ok (departures, after) ∧
      after.Sound ∧ Adds storage after key value departures := by
  -- the usage counts the newcomer before it has an entry
  let counted : Storage := { storage with usage := storage.usage + weight key value }
  have countedIndexed : Indexed counted.index counted.tracker := sound.indexed
  have surplus : counted.usage = total counted.index + weight key value := by
    simp only [counted, sound.usage]
  obtain ⟨older, middle, evicted, indexed, usage, evicts⟩ := evict_ok countedIndexed surplus
  have absent' : middle.index[key]? = none := by
    rw [evicts.kept]
    exact ite_eq_left_iff.mpr fun _ => absent
  obtain ⟨slot, tracker, pushed, indexed', -⟩ := indexed.push absent' value
  let placed : Storage := { middle with index := middle.index.insert key ⟨value, slot⟩, tracker }
  have placedIndexed : Indexed placed.index placed.tracker := indexed'
  have usage' : placed.usage = total placed.index := by
    simp only [placed]
    rw [total_insert, erase_of_absent absent']
    exact usage.trans (Nat.add_comm _ _)
  obtain ⟨itself, after, evicted', sound', evicts'⟩ := evict_sound placedIndexed usage'
  refine ⟨older ++ itself, after, ?_, sound', evicts'.plan.trans evicts.plan, ?_⟩
  · simp only [insertNew, bind, Except.bind]
    rw [show ({ storage with usage := storage.usage + weight key value } : Storage) = counted
      from rfl, evicted]
    simp only [pushed]
    rw [show ({ middle with index := middle.index.insert key ⟨value, slot⟩, tracker } : Storage) =
      placed from rfl, evicted']
    rfl
  · intro other
    have notOlder : key ∉ older.map Departure.key := by
      intro member
      obtain ⟨departure, member, same⟩ := List.mem_map.mp member
      have held := evicts.left departure member
      simp [show departure.key = key from same, counted, absent] at held
    simp only [Storage.peek, evicts'.kept, placed, List.map_append, List.mem_append]
    by_cases left : other ∈ itself.map Departure.key
    · simp only [left, or_true, if_true, Option.map_none]
    · by_cases same : other = key
      · subst same
        simp [left, notOlder]
      · simp only [left, or_false, if_false, getElem?_insert_of_ne same, evicts.kept, same]
        by_cases leftFirst : other ∈ older.map Departure.key <;> simp [leftFirst, counted]

/-- An insertion or an overwrite never faults. -/
theorem add_ok {storage : Storage} (sound : storage.Sound) (key : String) (value : Bytes) :
    ∃ departures after, storage.add key value = .ok (departures, after) ∧ after.Sound ∧
      Adds storage after key value departures := by
  cases found : storage.index[key]? with
  | none =>
    simp only [add, found]
    exact insertNew_ok sound found value
  | some entry =>
    simp only [add, found]
    exact overwrite_ok sound found value

/-! ## Runs -/

/-- No action faults on a sound storage. -/
theorem step_ok {storage : Storage} (sound : storage.Sound) (action : Action) :
    ∃ after answer, storage.step action = .ok (after, answer) ∧ after.Sound ∧
      after.plan = storage.plan := by
  cases action with
  | add key value =>
    obtain ⟨departures, after, added, sound', adds⟩ := add_ok sound key value
    refine ⟨after, .departed departures, ?_, sound', adds.plan⟩
    simp [step, added, bind, Except.bind, pure, Except.pure]
  | get key =>
    obtain ⟨tracker, got, sound'⟩ := get_ok sound key
    refine ⟨{ storage with tracker }, .found (storage.peek key), ?_, sound', rfl⟩
    simp [step, got, bind, Except.bind, pure, Except.pure]
  | peek key => exact ⟨storage, .found (storage.peek key), rfl, sound, rfl⟩

/-- No run faults from a sound storage. -/
theorem run_ok {storage : Storage} (sound : storage.Sound) (actions : List Action) :
    ∃ after answers, storage.run actions = .ok (after, answers) ∧ after.Sound ∧
      after.plan = storage.plan := by
  induction actions generalizing storage with
  | nil => exact ⟨storage, [], rfl, sound, rfl⟩
  | cons action rest ih =>
    obtain ⟨middle, answer, stepped, sound', plan⟩ := step_ok sound action
    obtain ⟨after, answers, ran, sound'', plan'⟩ := ih sound'
    refine ⟨after, answer :: answers, ?_, sound'', plan'.trans plan⟩
    simp [run, stepped, ran, bind, Except.bind, pure, Except.pure]

/-- Whatever is added and read, no storage that started empty ever faults. Its order of eviction
lists the stored keys, each once, every entry has the slot of its own key, the usage is the total
weight of the entries, and a budget is met. -/
theorem run_consistent (plan : Plan) (actions : List Action) :
    ∃ storage answers, plan.build.run actions = .ok (storage, answers) ∧
      storage.plan = plan ∧
      (∃ keys, storage.order = .ok keys ∧ keys.Nodup ∧ ∀ key, key ∈ keys ↔ key ∈ storage.index) ∧
      (∀ slot key, storage.tracker.keyAt? slot = some key ↔
        ∃ entry, storage.index[key]? = some entry ∧ entry.slot = slot) ∧
      storage.usage = total storage.index ∧
      (0 < storage.capacity → storage.usage ≤ storage.capacity) := by
  obtain ⟨storage, answers, ran, sound, plan'⟩ := run_ok (sound_build plan) actions
  exact ⟨storage, answers, ran, plan', sound.indexed.order, sound.indexed.designates, sound.usage,
    overBudget_eq_false_iff.mp sound.within⟩

end PeerCache.Storage
