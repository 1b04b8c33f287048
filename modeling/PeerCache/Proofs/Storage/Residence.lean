import PeerCache.Proofs.Eviction.Residence
import PeerCache.Proofs.Storage.Changes

/-! # Residences of stored keys

A stored key resides in its storage under the slot of its entry. Whatever a storage does is a
sequence of pushes, touches and pops of its tracker, and so its keys keep residences, each of which
lasts from the insertion of the key to the time when its entry leaves.
-/

namespace PeerCache

namespace Eviction

/-- The residence of a key that is touched now, whether it was residing or not. -/
def Residence.visit (now : Nat) : Option Residence → Residence
  | none => .start now
  | some residence => residence.touch now

end Eviction

namespace Storage

open Eviction (Policy Residence Tracker)

/-- The slot of a stored key. -/
def slot? (index : Std.ExtTreeMap String Entry) (key : String) : Option Nat :=
  index[key]?.map Entry.slot

/-- The keys that are stored reside, under their slots, as the tracker has it. -/
structure Follows (storage : Storage) (residents : String → Option Residence) (now : Nat) :
    Prop where
  indexed : Indexed storage.index storage.tracker
  policy : storage.tracker.policy = storage.plan.policy
  tracked : ∃ slots, storage.tracker.Follows slots now ∧
    ∀ key, residents key = (slot? storage.index key).bind slots

/-- The residences after some keys were touched and some have left. -/
def renewed (residents : String → Option Residence) (now : Nat) (touched : Option String)
    (gone : List String) (key : String) : Option Residence :=
  if key ∈ gone then none
  else if touched = some key then some (.visit now (residents key))
  else residents key

/-- The key that an action touches: one that is added, or one that is read and found. -/
def touched? (storage : Storage) : Action → Option String
  | .add key _ => some key
  | .get key => if key ∈ storage.index then some key else none
  | .peek _ => none

section Slots

variable {index : Std.ExtTreeMap String Entry} {tracker : Tracker} {key other : String}
  {slot : Nat}

private theorem slot?_erase_of_ne (distinct : other ≠ key) :
    slot? (index.erase key) other = slot? index other := by
  rw [slot?, slot?, getElem?_erase_of_ne distinct]

private theorem slot?_insert_of_ne (distinct : other ≠ key) (entry : Entry) :
    slot? (index.insert key entry) other = slot? index other := by
  rw [slot?, slot?, getElem?_insert_of_ne distinct]

private theorem slot?_insert_same {entry : Entry} (found : index[key]? = some entry)
    (value : Bytes) :
    slot? (index.insert key { entry with value }) = slot? index := by
  funext other
  by_cases same : other = key
  · subst same
    simp [slot?, found]
  · exact slot?_insert_of_ne same _

theorem Indexed.keyAt?_eq_some_iff (indexed : Indexed index tracker) :
    tracker.keyAt? slot = some key ↔ slot? index key = some slot := by
  rw [indexed.designates, slot?, Option.map_eq_some_iff]

/-- No two keys share a slot. -/
theorem Indexed.slot?_injective (indexed : Indexed index tracker)
    (here : slot? index key = some slot) (there : slot? index other = some slot) : key = other := by
  rw [← indexed.keyAt?_eq_some_iff] at here there
  simpa using here.symm.trans there

/-- A change under the slot of a key is a change for this key only. -/
theorem Indexed.bind_update (indexed : Indexed index tracker) (here : slot? index key = some slot)
    (slots : Nat → Option Residence) (resident : Option Residence) (other : String) :
    (slot? index other).bind (Function.update slots slot resident) =
      if other = key then resident else (slot? index other).bind slots := by
  by_cases same : other = key
  · subst same
    simp [here]
  · rw [if_neg same]
    cases there : slot? index other with
    | none => rfl
    | some slot' =>
      have distinct : slot' ≠ slot := by
        rintro rfl
        exact same (indexed.slot?_injective there here)
      rw [Option.bind_some, Option.bind_some, Function.update_of_ne distinct]

end Slots

variable {storage after : Storage} {residents : String → Option Residence} {now : Nat}
  {key : String} {value : Bytes} {departures : List Departure}

theorem follows_build (plan : Plan) (now : Nat) : plan.build.Follows (fun _ => none) now where
  indexed := indexed_empty plan.policy
  policy := by cases plan with | mk capacity policy listens => cases policy <;> rfl
  tracked := ⟨fun _ => none, Tracker.follows_empty plan.policy now,
    fun key => by simp [slot?, Plan.build]⟩

theorem Follows.later (follows : storage.Follows residents now) {later : Nat}
    (bound : now ≤ later) : storage.Follows residents later := by
  obtain ⟨slots, tracked, same⟩ := follows.tracked
  exact ⟨follows.indexed, follows.policy, slots, tracked.later bound, same⟩

/-- The keys that reside are those that are stored. -/
theorem Follows.resident (follows : storage.Follows residents now) (key : String) :
    residents key = none ↔ storage.index[key]? = none := by
  obtain ⟨slots, tracked, same⟩ := follows.tracked
  rw [same]
  cases found : slot? storage.index key with
  | none => simpa [slot?] using found
  | some slot =>
    have tracks := follows.indexed.keyAt?_eq_some_iff.mpr found
    obtain ⟨entry, found, -⟩ := Option.map_eq_some_iff.mp found
    rw [Option.bind_some, tracked.resident, tracks, found]
    simp

/-! ## Changes of the tracker -/

/-- The victim of an eviction resides no longer. -/
theorem Follows.pop (follows : storage.Follows residents now) {tracker : Tracker}
    (popped : storage.tracker.pop = .ok (some (key, tracker))) (usage : Nat) :
    Follows { storage with index := storage.index.erase key, tracker, usage }
      (Function.update residents key none) now := by
  obtain ⟨slots, tracked, same⟩ := follows.tracked
  obtain ⟨slot, tracks, tracked'⟩ := tracked.pop popped
  have here := follows.indexed.keyAt?_eq_some_iff.mp tracks
  rcases follows.indexed.pop with ⟨nothing, -⟩ | ⟨key', -, tracker', popped', -, indexed, policy⟩
  · cases popped.symm.trans nothing
  · cases popped.symm.trans popped'
    refine ⟨indexed, policy.trans follows.policy, _, tracked', fun other => ?_⟩
    by_cases victim : other = key
    · subst victim
      simp [slot?]
    · rw [slot?_erase_of_ne victim, follows.indexed.bind_update here, if_neg victim,
        Function.update_of_ne victim, same]

/-- A key that was absent starts to reside. -/
theorem Follows.push (follows : storage.Follows residents now)
    (absent : storage.index[key]? = none) {slot : Nat} {tracker : Tracker}
    (pushed : storage.tracker.push key = .ok (slot, tracker)) (value : Bytes) :
    Follows { storage with index := storage.index.insert key ⟨value, slot⟩, tracker }
      (Function.update residents key (some (.start now))) (now + 1) := by
  obtain ⟨slots, tracked, same⟩ := follows.tracked
  obtain ⟨slot', tracker', pushed', indexed, policy⟩ := follows.indexed.push absent value
  cases pushed.symm.trans pushed'
  have here : slot? (storage.index.insert key ⟨value, slot⟩) key = some slot := by simp [slot?]
  refine ⟨indexed, policy.trans follows.policy, _, tracked.push pushed, fun other => ?_⟩
  rw [indexed.bind_update here]
  by_cases newcomer : other = key
  · rw [if_pos newcomer, newcomer, Function.update_self]
  · rw [if_neg newcomer, Function.update_of_ne newcomer, slot?_insert_of_ne newcomer, same]

/-- A key that is touched resides on, whether it gets another value or not. -/
theorem Follows.touch (follows : storage.Follows residents now) {entry : Entry}
    (found : storage.index[key]? = some entry) {tracker : Tracker}
    (touched : storage.tracker.touch entry.slot = .ok tracker) (value : Bytes) (usage : Nat) :
    ∃ residence, residents key = some residence ∧
      Follows { storage with tracker }
        (Function.update residents key (some (residence.touch now))) (now + 1) ∧
      Follows
        { storage with index := storage.index.insert key { entry with value }, tracker, usage }
        (Function.update residents key (some (residence.touch now))) (now + 1) := by
  have stored : residents key ≠ none := by simp [follows.resident, found]
  obtain ⟨residence, resides⟩ := Option.ne_none_iff_exists'.mp stored
  obtain ⟨slots, tracked, same⟩ := follows.tracked
  have here : slot? storage.index key = some entry.slot := by simp [slot?, found]
  have tracked' := tracked.touch (by rw [← resides, same, here, Option.bind_some]) touched
  have same' (other : String) : Function.update residents key (some (residence.touch now)) other =
      (slot? storage.index other).bind
        (Function.update slots entry.slot (some (residence.touch now))) := by
    rw [follows.indexed.bind_update here, ← same, Function.update_apply]
  obtain ⟨tracker', touched', indexed, indexed', policy⟩ := follows.indexed.touch found value
  cases touched.symm.trans touched'
  refine ⟨residence, resides, ⟨indexed, policy.trans follows.policy, _, tracked', same'⟩,
    ⟨indexed', policy.trans follows.policy, _, tracked', fun other => ?_⟩⟩
  rw [slot?_insert_same found]
  exact same' other

/-! ## Actions -/

/-- Those who leave reside no longer. -/
theorem Sheds.follows (sheds : Sheds storage departures after)
    (follows : storage.Follows residents now) :
    after.Follows (fun key => if key ∈ departures.map Departure.key then none else residents key)
      now := by
  induction sheds generalizing residents with
  | ends => simpa using follows
  | @sheds storage after victim entry tracker usage later exceeds popped found subtracted rest ih =>
    have shed := ih (follows.pop popped usage)
    convert shed using 2 with key
    by_cases same : key = victim <;> simp [same]

theorem renewed_none (residents : String → Option Residence) (now : Nat) :
    renewed residents now none [] = residents := by
  funext key
  simp [renewed]

private theorem renewed_some (residents : String → Option Residence) (now : Nat) (key : String)
    (gone : List String) : renewed residents now (some key) gone = fun other =>
      if other ∈ gone then none
      else Function.update residents key (some (.visit now (residents key))) other := by
  funext other
  by_cases same : other = key
  · subst same
    simp [renewed]
  · have different : key ≠ other := fun equal => same equal.symm
    simp [renewed, same, different]

private theorem Sheds.not_mem_of_absent (sheds : Sheds storage departures after)
    (absent : storage.index[key]? = none) : key ∉ departures.map Departure.key := by
  have account := sheds.count_add_present key
  rw [present_of_absent absent] at account
  exact List.count_eq_zero.mp (Nat.eq_zero_of_add_eq_zero_right account)

/-- An addition touches its key, and then some keys leave, perhaps itself. -/
theorem Stores.follows (stores : Stores storage key value departures after)
    (follows : storage.Follows residents now) :
    after.Follows (renewed residents now (some key) (departures.map Departure.key)) (now + 1) := by
  cases stores with
  | overwrites entry found rest subtracted tracker touched _ _ sheds =>
    obtain ⟨residence, resides, -, overwritten⟩ :=
      follows.touch found touched value (rest + value.length)
    rw [renewed_some, resides]
    exact sheds.follows overwritten
  | inserts absent older middle shedsOlder slot tracker pushed itself _ shedsItself =>
    have roomy := shedsOlder.follows (show Follows _ residents now from
      ⟨follows.indexed, follows.policy, follows.tracked⟩)
    have missing := (follows.resident key).mpr absent
    have absent' : middle.index[key]? = none := by
      rw [← roomy.resident, missing, ite_self]
    rw [renewed_some, missing]
    convert shedsItself.follows (roomy.push absent' pushed value) using 2 with other
    rw [List.map_append]
    simp only [List.mem_append]
    by_cases leaves : other ∈ itself.map Departure.key
    · rw [if_pos (.inr leaves), if_pos leaves]
    · by_cases same : other = key
      · subst same
        have stays := shedsOlder.not_mem_of_absent absent
        rw [if_neg (not_or.mpr ⟨stays, leaves⟩), if_neg leaves, Function.update_self,
          Function.update_self]
        rfl
      · rw [if_neg leaves, Function.update_of_ne same, Function.update_of_ne same]
        simp only [leaves, or_false]

private theorem Reads.follows {found : Option Bytes} (reads : Reads storage key found after)
    (follows : storage.Follows residents now) :
    after.Follows (renewed residents now (if key ∈ storage.index then some key else none) [])
      (now + 1) := by
  cases reads with
  | misses absent =>
    have missing : key ∉ storage.index := by
      simp [Std.ExtTreeMap.mem_iff_isSome_getElem?, absent]
    rw [if_neg missing, renewed_none]
    exact follows.later (Nat.le_succ now)
  | hits entry found tracker touched =>
    have stored : key ∈ storage.index := by
      simp [Std.ExtTreeMap.mem_iff_isSome_getElem?, found]
    obtain ⟨residence, resides, touched, -⟩ := follows.touch found touched entry.value storage.usage
    rw [if_pos stored, renewed_some, resides]
    simp only [List.not_mem_nil, if_false]
    exact touched

theorem Performs.follows {action : Action} {answer : Answer}
    (performs : Performs storage action after answer) (follows : storage.Follows residents now) :
    after.Follows (renewed residents now (storage.touched? action)
      (answer.departures.map Departure.key)) (now + 1) := by
  cases performs with
  | add key value departures _ stores => exact stores.follows follows
  | get key value _ reads => exact reads.follows follows
  | peek key =>
    rw [touched?, Answer.departures, List.map_nil, renewed_none]
    exact follows.later (Nat.le_succ now)

/-! ## The order of eviction -/

/-- The stored keys leave in the order of their residences. -/
theorem Follows.order (follows : storage.Follows residents now) :
    ∃ keys, storage.order = .ok keys ∧
      keys.Pairwise fun first second => ∀ residence residence',
        residents first = some residence → residents second = some residence' →
        storage.plan.policy.Precedes residence residence' := by
  obtain ⟨slots, tracked, same⟩ := follows.tracked
  obtain ⟨used, keys, ordered, -, -, listed, arranges⟩ := tracked.order
  rw [follows.policy] at arranges
  refine ⟨keys, ordered, ?_⟩
  -- The order is known of the slots, and each of them has the residence of its key.
  have resident {slot : Nat} {key : String} (tracks : storage.tracker.keyAt? slot = some key) :
      residents key = slots slot := by
    rw [same, follows.indexed.keyAt?_eq_some_iff.mp tracks, Option.bind_some]
  have named : (used.map storage.tracker.keyAt?).Pairwise fun first second => ∀ key key',
      first = some key → second = some key' → ∀ residence residence',
      residents key = some residence → residents key' = some residence' →
      storage.plan.policy.Precedes residence residence' := by
    rw [List.pairwise_map]
    refine List.Pairwise.imp ?_ arranges
    intro first second precedes key key' tracks tracks' residence residence' resides resides'
    rw [resident tracks] at resides
    rw [resident tracks'] at resides'
    exact precedes residence residence' resides resides'
  rw [listed, List.pairwise_map] at named
  exact named.imp fun precedes => precedes _ _ rfl rfl

end Storage

end PeerCache
