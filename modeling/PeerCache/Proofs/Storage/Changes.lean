import PeerCache.Proofs.Storage.Consistency

/-! # How a storage changes

Eviction lets one victim go after the other, and an insertion or an overwrite is one change of the
tracker between evictions. `Sheds` and `Stores` spell this out victim by victim, so that what an
operation does to anything that a storage holds can be told by induction on the victims. The first
use is a count: every entry that was stored is either stored still or has left, once.
-/

namespace PeerCache.Storage

open Eviction (Policy Tracker)

/-- The next victims leave a storage, one after the other, as long as it is over its budget and
there is one. -/
inductive Sheds : Storage → List Departure → Storage → Prop
  | ends (storage : Storage)
      (met : storage.overBudget = false ∨ storage.tracker.pop = .ok none) : Sheds storage [] storage
  | sheds {storage after : Storage} {key : String} {entry : Entry} {tracker : Tracker} {usage : Nat}
      {later : List Departure} (exceeds : storage.overBudget = true)
      (popped : storage.tracker.pop = .ok (some (key, tracker)))
      (found : storage.index[key]? = some entry)
      (subtracted : Checked.subtract storage.usage (weight key entry.value) = .ok usage)
      (rest : Sheds { storage with index := storage.index.erase key, tracker, usage } later after) :
      Sheds storage (⟨key, entry.value⟩ :: later) after

/-- A read is a touch if it is a hit. -/
inductive Reads (storage : Storage) (key : String) : Option Bytes → Storage → Prop
  | misses (absent : storage.index[key]? = none) : Reads storage key none storage
  | hits (entry : Entry) (found : storage.index[key]? = some entry) (tracker : Tracker)
      (touched : storage.tracker.touch entry.slot = .ok tracker) :
      Reads storage key (some entry.value) { storage with tracker }

/-- What an insertion or an overwrite does before, between and after evictions. -/
inductive Stores (storage : Storage) (key : String) (value : Bytes) :
    List Departure → Storage → Prop
  | overwrites (entry : Entry) (found : storage.index[key]? = some entry) (rest : Nat)
      (subtracted : Checked.subtract storage.usage entry.value.length = .ok rest)
      (tracker : Tracker) (touched : storage.tracker.touch entry.slot = .ok tracker)
      (departures : List Departure) (after : Storage)
      (sheds : Sheds { storage with
        index := storage.index.insert key { entry with value }
        tracker
        usage := rest + value.length } departures after) : Stores storage key value departures after
  | inserts (absent : storage.index[key]? = none) (older : List Departure) (middle : Storage)
      (shedsOlder : Sheds { storage with usage := storage.usage + weight key value } older middle)
      (slot : Nat) (tracker : Tracker) (pushed : middle.tracker.push key = .ok (slot, tracker))
      (itself : List Departure) (after : Storage)
      (shedsItself : Sheds { middle with
        index := middle.index.insert key ⟨value, slot⟩, tracker } itself after) :
      Stores storage key value (older ++ itself) after

/-- The entries that left with an action. -/
def Answer.departures : Answer → List Departure
  | .departed departures => departures
  | .found _ => []

/-- What an action does. -/
inductive Performs (storage : Storage) : Action → Storage → Answer → Prop
  | add (key : String) (value : Bytes) (departures : List Departure) (after : Storage)
      (stores : Stores storage key value departures after) :
      Performs storage (.add key value) after (.departed departures)
  | get (key : String) (value : Option Bytes) (after : Storage)
      (reads : Reads storage key value after) : Performs storage (.get key) after (.found value)
  | peek (key : String) : Performs storage (.peek key) storage (.found (storage.peek key))

/-! ## The operations -/

private theorem sheds_of_evict {storage after : Storage} {departures : List Departure}
    (evicted : storage.evict = .ok (departures, after)) : Sheds storage departures after := by
  induction size : storage.index.size using Nat.strong_induction_on
    generalizing storage departures with
  | h size' ih =>
    rw [evict] at evicted
    split at evicted
    case isFalse within =>
      cases evicted
      exact .ends after (.inl (by simpa using within))
    case isTrue exceeds =>
      obtain ⟨victim, popped, evicted⟩ := Checked.bind_eq_ok_iff.mp evicted
      cases victim with
      | none =>
        cases evicted
        exact .ends after (.inr popped)
      | some victim =>
        obtain ⟨key, tracker⟩ := victim
        simp only at evicted
        split at evicted
        · cases evicted
        · next entry found =>
          obtain ⟨usage, subtracted, evicted⟩ := Checked.bind_eq_ok_iff.mp evicted
          obtain ⟨⟨later, rest⟩, shed, evicted⟩ := Checked.bind_eq_ok_iff.mp evicted
          cases evicted
          exact .sheds exceeds popped found subtracted
            (ih _ (size ▸ size_erase_lt found) shed rfl)

/-- An addition inserts or overwrites. -/
theorem stores_of_add {storage after : Storage} {key : String} {value : Bytes}
    {departures : List Departure} (added : storage.add key value = .ok (departures, after)) :
    Stores storage key value departures after := by
  unfold add at added
  split at added
  case h_1 entry found =>
    obtain ⟨rest, subtracted, added⟩ := Checked.bind_eq_ok_iff.mp added
    obtain ⟨tracker, touched, evicted⟩ := Checked.bind_eq_ok_iff.mp added
    exact .overwrites entry found rest subtracted tracker touched _ _ (sheds_of_evict evicted)
  case h_2 absent =>
    obtain ⟨⟨older, middle⟩, evicted, added⟩ := Checked.bind_eq_ok_iff.mp added
    obtain ⟨⟨slot, tracker⟩, pushed, added⟩ := Checked.bind_eq_ok_iff.mp added
    obtain ⟨⟨itself, last⟩, evicted', added⟩ := Checked.bind_eq_ok_iff.mp added
    cases added
    exact .inserts absent older middle (sheds_of_evict evicted) slot tracker pushed itself _
      (sheds_of_evict evicted')

private theorem reads_of_get {storage after : Storage} {key : String} {value : Option Bytes}
    (got : storage.get key = .ok (value, after)) : Reads storage key value after := by
  unfold get at got
  split at got
  case h_1 absent =>
    cases got
    exact .misses absent
  case h_2 entry found =>
    obtain ⟨tracker, touched, got⟩ := Checked.bind_eq_ok_iff.mp got
    cases got
    exact .hits entry found tracker touched

theorem performs_of_step {storage after : Storage} {action : Action} {answer : Answer}
    (stepped : storage.step action = .ok (after, answer)) :
    Performs storage action after answer := by
  cases action with
  | add key value =>
    obtain ⟨⟨departures, last⟩, added, stepped⟩ := Checked.bind_eq_ok_iff.mp stepped
    cases stepped
    exact .add key value departures _ (stores_of_add added)
  | get key =>
    obtain ⟨⟨value, last⟩, got, stepped⟩ := Checked.bind_eq_ok_iff.mp stepped
    cases stepped
    exact .get key value _ (reads_of_get got)
  | peek key =>
    cases stepped
    exact .peek key

/-- Storages run one list of actions after the other. -/
theorem run_append {storage middle final : Storage} {first second : List Action}
    {earlier later : List Answer} (ran : storage.run first = .ok (middle, earlier))
    (ran' : middle.run second = .ok (final, later)) :
    storage.run (first ++ second) = .ok (final, earlier ++ later) := by
  induction first generalizing storage earlier with
  | nil =>
    cases ran
    exact ran'
  | cons action rest ih =>
    obtain ⟨⟨next, answer⟩, stepped, ran⟩ := Checked.bind_eq_ok_iff.mp ran
    obtain ⟨⟨last, answers⟩, continued, same⟩ := Checked.bind_eq_ok_iff.mp ran
    cases same
    have whole := ih continued
    simp only [List.cons_append, run, stepped, whole, bind, Except.bind]
    rfl

/-! ## Storages without a budget -/

theorem Sheds.plan_eq {storage after : Storage} {departures : List Departure}
    (sheds : Sheds storage departures after) : after.plan = storage.plan := by
  induction sheds with
  | ends => rfl
  | sheds exceeds popped found subtracted rest ih => exact ih

theorem Stores.plan_eq {storage after : Storage} {key : String} {value : Bytes}
    {departures : List Departure} (stores : Stores storage key value departures after) :
    after.plan = storage.plan := by
  cases stores with
  | overwrites entry found rest subtracted tracker touched _ _ sheds => exact sheds.plan_eq
  | inserts absent older middle shedsOlder slot tracker pushed itself _ shedsItself =>
    exact shedsItself.plan_eq.trans shedsOlder.plan_eq

theorem Performs.plan_eq {storage after : Storage} {action : Action} {answer : Answer}
    (performs : Performs storage action after answer) : after.plan = storage.plan := by
  cases performs with
  | add key value departures _ stores => exact stores.plan_eq
  | get key value _ reads => cases reads <;> rfl
  | peek key => rfl

private theorem Sheds.eq_nil {storage after : Storage} {departures : List Departure}
    (sheds : Sheds storage departures after) (unbounded : storage.plan.capacity = 0) :
    departures = [] := by
  cases sheds with
  | ends => rfl
  | sheds exceeds popped found subtracted rest => simp [overBudget, capacity, unbounded] at exceeds

theorem Performs.departures_eq_nil {storage after : Storage} {action : Action} {answer : Answer}
    (performs : Performs storage action after answer) (unbounded : storage.plan.capacity = 0) :
    answer.departures = [] := by
  cases performs with
  | add key value departures _ stores =>
    cases stores with
    | overwrites entry found rest subtracted tracker touched _ _ sheds =>
      exact sheds.eq_nil unbounded
    | inserts absent older middle shedsOlder slot tracker pushed itself _ shedsItself =>
      have unbounded' : middle.plan.capacity = 0 := by rw [shedsOlder.plan_eq, unbounded]
      rw [Answer.departures, shedsOlder.eq_nil unbounded, shedsItself.eq_nil unbounded',
        List.append_nil]
  | get key => rfl
  | peek key => rfl

/-! ## Counting entries -/

/-- How many entries of a key an index holds. -/
def present (index : Std.ExtTreeMap String Entry) (key : String) : Nat :=
  if key ∈ index then 1 else 0

theorem present_of_found {index : Std.ExtTreeMap String Entry} {key : String} {entry : Entry}
    (found : index[key]? = some entry) : present index key = 1 := by
  rw [present, if_pos]
  rw [Std.ExtTreeMap.mem_iff_isSome_getElem?, found]
  rfl

theorem present_of_absent {index : Std.ExtTreeMap String Entry} {key : String}
    (absent : index[key]? = none) : present index key = 0 := by
  rw [present, if_neg]
  rw [Std.ExtTreeMap.mem_iff_isSome_getElem?, absent]
  simp

private theorem present_insert (index : Std.ExtTreeMap String Entry) (key other : String)
    (entry : Entry) :
    present (index.insert key entry) other = if other = key then 1 else present index other := by
  by_cases same : other = key
  · simp [present, same]
  · have different : key ≠ other := fun equal => same equal.symm
    simp [present, same, different]

private theorem present_erase (index : Std.ExtTreeMap String Entry) (key other : String) :
    present (index.erase key) other = if other = key then 0 else present index other := by
  by_cases same : other = key
  · simp [present, same]
  · have different : key ≠ other := fun equal => same equal.symm
    simp [present, same, different]

/-- Each entry leaves once or stays. -/
theorem Sheds.count_add_present {storage after : Storage} {departures : List Departure}
    (sheds : Sheds storage departures after) (key : String) :
    (departures.map Departure.key).count key + present after.index key =
      present storage.index key := by
  induction sheds with
  | ends => simp
  | @sheds storage after victim entry tracker usage later exceeds popped found subtracted rest ih =>
    rw [present_erase] at ih
    rw [List.map_cons, List.count_cons, Nat.add_right_comm, ih]
    by_cases same : victim = key
    · subst same
      simp [present_of_found found]
    · have different : key ≠ victim := fun equal => same equal.symm
      simp [same, different]

/-- An addition brings one entry of its key, unless there is one already. -/
theorem Stores.count_add_present {storage after : Storage} {key : String} {value : Bytes}
    {departures : List Departure} (stores : Stores storage key value departures after)
    (other : String) :
    (departures.map Departure.key).count other + present after.index other =
      if other = key then 1 else present storage.index other := by
  cases stores with
  | overwrites entry found rest subtracted tracker touched _ _ sheds =>
    rw [sheds.count_add_present, present_insert]
  | inserts absent older middle shedsOlder slot tracker pushed itself _ shedsItself =>
    have before := shedsOlder.count_add_present other
    have afterwards := shedsItself.count_add_present other
    rw [present_insert] at afterwards
    rw [List.map_append, List.count_append, Nat.add_assoc, afterwards]
    by_cases same : other = key
    · subst same
      have none_before := present_of_absent absent
      simp only [if_true] at before ⊢
      omega
    · rw [if_neg same, if_neg same]
      exact before

/-- The key that an action adds a value for. -/
def Action.added? : Action → Option String
  | .add key _ => some key
  | .get _ => none
  | .peek _ => none

/-- Only an addition brings an entry. -/
theorem Performs.count_add_present {storage after : Storage} {action : Action} {answer : Answer}
    (performs : Performs storage action after answer) (key : String) :
    (answer.departures.map Departure.key).count key + present after.index key =
      if action.added? = some key then 1 else present storage.index key := by
  cases performs with
  | add other value departures _ stores =>
    rw [Answer.departures, stores.count_add_present]
    simp [Action.added?, eq_comm]
  | get other value _ reads => cases reads <;> simp [Answer.departures, Action.added?]
  | peek other => simp [Answer.departures, Action.added?]

end PeerCache.Storage
