import PeerCache.Proofs.Eviction.Precedence
import PeerCache.Proofs.Storage.Residence

/-! # The queue of a storage

The entries of a storage wait in line for their eviction. The line is determined by the residences
of the keys, so that what happens to one key does not change how the others stand to each other, and
the entry that eviction takes out is the one in front.
-/

namespace PeerCache.Storage

open Eviction (Policy Residence Tracker)

/-- The entries of a storage, the next victim first. -/
structure Queue (storage : Storage) (line : List Departure) : Prop where
  order : storage.order = .ok (line.map Departure.key)
  nodup : (line.map Departure.key).Nodup
  stored : ∀ key value, ⟨key, value⟩ ∈ line ↔ storage.peek key = some value

/-- The total weight of some entries. -/
def heft (line : List Departure) : Nat :=
  (line.map fun departure => weight departure.key departure.value).sum

private theorem heft_cons (departure : Departure) (line : List Departure) :
    heft (departure :: line) = weight departure.key departure.value + heft line :=
  List.sum_cons

/-- A key leaves before another one, if both reside. -/
def Sooner (policy : Policy) (residents : String → Option Residence) (first second : String) :
    Prop :=
  ∀ residence residence', residents first = some residence → residents second = some residence' →
    policy.Precedes residence residence'

variable {storage other : Storage} {residents : String → Option Residence} {now usage : Nat}
  {line line' : List Departure} {key : String} {value : Bytes} {entry : Entry} {tracker : Tracker}

theorem peek_eq_none_iff : storage.peek key = none ↔ storage.index[key]? = none :=
  Option.map_eq_none_iff

theorem peek_of_found (found : storage.index[key]? = some entry) :
    storage.peek key = some entry.value := by
  rw [peek, found, Option.map_some]

/-! ## Lines -/

private theorem Queue.mem_keys_iff (queue : storage.Queue line) :
    key ∈ line.map Departure.key ↔ storage.index[key]? ≠ none := by
  rw [List.mem_map, ne_eq, ← peek_eq_none_iff, ← ne_eq, Option.ne_none_iff_exists']
  constructor
  · rintro ⟨⟨_, value⟩, member, rfl⟩
    exact ⟨value, (queue.stored _ value).mp member⟩
  · rintro ⟨value, held⟩
    exact ⟨⟨key, value⟩, (queue.stored key value).mpr held, rfl⟩

theorem Queue.mem_iff (queue : storage.Queue line) {departure : Departure} :
    departure ∈ line ↔ storage.peek departure.key = some departure.value :=
  queue.stored departure.key departure.value

/-- Every storage that is in order has a queue. -/
theorem Indexed.exists_queue (indexed : Indexed storage.index storage.tracker) :
    ∃ line, storage.Queue line := by
  obtain ⟨keys, order, nodup, listed⟩ := indexed.order
  let lined := keys.map fun key => (⟨key, (storage.peek key).getD []⟩ : Departure)
  have same : lined.map Departure.key = keys := by simp [lined, Function.comp_def]
  refine ⟨lined, same.symm ▸ order, same.symm ▸ nodup, fun key value => ?_⟩
  have stored : key ∈ keys ↔ storage.peek key ≠ none := by
    rw [listed, ne_eq, peek_eq_none_iff, Std.ExtTreeMap.mem_iff_isSome_getElem?,
      Option.isSome_iff_ne_none]
  cases held : storage.peek key with
  | none => simp [lined, stored, held]
  | some value' => simp [lined, stored, held, eq_comm]

private theorem heft_eq_total {index : Std.ExtTreeMap String Entry}
    (nodup : (line.map Departure.key).Nodup)
    (stored : ∀ key value, ⟨key, value⟩ ∈ line ↔ index[key]?.map Entry.value = some value) :
    heft line = total index := by
  induction line generalizing index with
  | nil =>
    have vacant : index = ∅ := by
      refine Std.ExtTreeMap.ext_getElem? fun key => ?_
      cases found : index[key]? with
      | none => simp
      | some entry => simpa [found] using stored key entry.value
    rw [vacant, total_empty]
    rfl
  | cons departure rest ih =>
    obtain ⟨key, value⟩ := departure
    obtain ⟨entry, found, rfl⟩ := Option.map_eq_some_iff.mp
      ((stored key value).mp (List.mem_cons_self ..))
    obtain ⟨outside, distinct⟩ := List.nodup_cons.mp nodup
    rw [heft_cons, total_erase found, ih distinct]
    intro other value
    by_cases same : other = key
    · subst same
      simp only [Std.ExtTreeMap.getElem?_erase_self, Option.map_none, reduceCtorEq, iff_false]
      exact fun member => outside (List.mem_map.mpr ⟨_, member, rfl⟩)
    · rw [getElem?_erase_of_ne same, ← stored]
      simp [same]

theorem Queue.heft_eq (queue : storage.Queue line) : heft line = total storage.index :=
  heft_eq_total queue.nodup queue.stored

/-! ## Lines and residences -/

private theorem Sooner.asymm {policy : Policy} {first second : String}
    (sooner : Sooner policy residents first second) (resides : residents first ≠ none)
    (resides' : residents second ≠ none) : ¬ Sooner policy residents second first := by
  obtain ⟨residence, resides⟩ := Option.ne_none_iff_exists'.mp resides
  obtain ⟨residence', resides'⟩ := Option.ne_none_iff_exists'.mp resides'
  intro sooner'
  exact (sooner _ _ resides resides').asymm (sooner' _ _ resides' resides)

private theorem Queue.resident (queue : storage.Queue line)
    (follows : storage.Follows residents now)
    {departure : Departure} (member : departure ∈ line) : residents departure.key ≠ none := by
  rw [ne_eq, follows.resident]
  exact queue.mem_keys_iff.mp (List.mem_map_of_mem (f := Departure.key) member)

/-- A queue is sorted by the residences of its keys. -/
theorem Queue.sorted (queue : storage.Queue line) (follows : storage.Follows residents now) :
    line.Pairwise fun first second =>
      Sooner storage.plan.policy residents first.key second.key := by
  obtain ⟨keys, order, sorted⟩ := follows.order
  cases order.symm.trans queue.order
  exact List.pairwise_map.mp sorted

/-- Two lists of the same entries, both sorted by residences, are the same list. -/
theorem eq_of_sooner (policy : Policy) (residents : String → Option Residence)
    (nodup : (line.map Departure.key).Nodup)
    (nodup' : (line'.map Departure.key).Nodup)
    (same : ∀ departure, departure ∈ line ↔ departure ∈ line')
    (resident : ∀ departure ∈ line, residents departure.key ≠ none)
    (sorted : line.Pairwise fun first second => Sooner policy residents first.key second.key)
    (sorted' : line'.Pairwise fun first second => Sooner policy residents first.key second.key) :
    line = line' := by
  refine List.Perm.eq_of_pairwise ?_ sorted sorted'
    ((List.perm_ext_iff_of_nodup (.of_map _ nodup) (.of_map _ nodup')).mpr same)
  intro first second member member' sooner sooner'
  exact absurd sooner' (sooner.asymm (resident first member)
    (resident second ((same second).mpr member')))

/-- Keys that reside as before and keep their values stand to each other as before. -/
theorem Queue.filter_eq {residents' : String → Option Residence} {now' : Nat}
    (queue : storage.Queue line) (follows : storage.Follows residents now)
    (queue' : other.Queue line') (follows' : other.Follows residents' now')
    (policy : other.plan.policy = storage.plan.policy) (p : String → Bool)
    (resident : ∀ key, p key = true → residents' key = residents key)
    (held : ∀ key, p key = true → other.peek key = storage.peek key) :
    line'.filter (fun departure => p departure.key) =
      line.filter fun departure => p departure.key := by
  have nodup {line : List Departure} (nodup : (line.map Departure.key).Nodup) :
      ((line.filter fun departure => p departure.key).map Departure.key).Nodup :=
    nodup.sublist (List.filter_sublist.map _)
  refine eq_of_sooner storage.plan.policy residents (nodup queue'.nodup) (nodup queue.nodup)
    ?_ ?_ ?_ ?_
  · intro departure
    rw [List.mem_filter, List.mem_filter, queue.mem_iff, queue'.mem_iff]
    exact and_congr_left fun chosen => by rw [held _ chosen]
  · intro departure member
    obtain ⟨member, chosen⟩ := List.mem_filter.mp member
    rw [← resident _ chosen]
    exact queue'.resident follows' member
  · refine List.Pairwise.imp_of_mem ?_ ((queue'.sorted follows').sublist List.filter_sublist)
    intro first second member member' sooner residence residence' resides resides'
    rw [policy] at sooner
    rw [← resident _ (List.mem_filter.mp member).2] at resides
    rw [← resident _ (List.mem_filter.mp member').2] at resides'
    exact sooner _ _ resides resides'
  · exact (queue.sorted follows).sublist List.filter_sublist

/-! ## Victims -/

/-- The key that a tracker gives up leaves before all others. -/
theorem Follows.sooner_of_pop (follows : storage.Follows residents now)
    (ordered : storage.tracker.Ordered) (popped : storage.tracker.pop = .ok (some (key, tracker)))
    {behind : String} (distinct : behind ≠ key) :
    Sooner storage.plan.policy residents key behind := by
  obtain ⟨slots, tracked, same⟩ := follows.tracked
  obtain ⟨slot, tracks, first⟩ := tracked.pop_first ordered popped
  have here := follows.indexed.keyAt?_eq_some_iff.mp tracks
  intro residence residence' resides resides'
  rw [same, here, Option.bind_some] at resides
  rw [same] at resides'
  obtain ⟨slot', there, resides'⟩ := Option.bind_eq_some_iff.mp resides'
  rw [← follows.policy]
  refine first slot' ?_ _ _ resides resides'
  rintro rfl
  exact distinct (follows.indexed.slot?_injective there here)

/-- The entry in front of the queue is the one that is taken out. -/
theorem Queue.pop (queue : storage.Queue line) (follows : storage.Follows residents now)
    (ordered : storage.tracker.Ordered) (popped : storage.tracker.pop = .ok (some (key, tracker)))
    (found : storage.index[key]? = some entry) (usage : Nat) :
    ∃ rest, line = ⟨key, entry.value⟩ :: rest ∧
      Queue { storage with index := storage.index.erase key, tracker, usage } rest := by
  have follows' := follows.pop popped usage
  obtain ⟨rest, queue'⟩ := follows'.indexed.exists_queue
  have behind : ∀ departure ∈ rest, departure.key ≠ key := by
    rintro departure member rfl
    exact queue'.mem_keys_iff.mp (List.mem_map.mpr ⟨_, member, rfl⟩)
      Std.ExtTreeMap.getElem?_erase_self
  refine ⟨rest, ?_, queue'⟩
  refine eq_of_sooner storage.plan.policy residents queue.nodup ?_ ?_
    (fun departure => queue.resident follows) (queue.sorted follows) ?_
  · rw [List.map_cons, List.nodup_cons]
    refine ⟨fun member => ?_, queue'.nodup⟩
    obtain ⟨departure, member, same⟩ := List.mem_map.mp member
    exact behind departure member same
  · rintro ⟨other, value⟩
    rw [queue.stored, List.mem_cons, queue'.stored]
    by_cases same : other = key
    · subst same
      simp [peek, found, eq_comm]
    · simp [peek, getElem?_erase_of_ne same, same]
  · refine List.pairwise_cons.mpr ⟨fun departure member =>
      follows.sooner_of_pop ordered popped (behind departure member), ?_⟩
    refine List.Pairwise.imp_of_mem ?_ (queue'.sorted follows')
    intro first second member member' sooner residence residence' resides resides'
    rw [← Function.update_of_ne (behind first member) none residents] at resides
    rw [← Function.update_of_ne (behind second member') none residents] at resides'
    exact sooner _ _ resides resides'

/-! ## Heaps that stay in order -/

section Ordered

variable {after : Storage} {departures : List Departure}

/-- What a storage counts in its usage does not matter to its residences. -/
theorem Follows.counting (follows : storage.Follows residents now) (usage : Nat) :
    Follows { storage with usage } residents now :=
  ⟨follows.indexed, follows.policy, follows.tracked⟩

theorem Sheds.absent (sheds : Sheds storage departures after)
    (absent : storage.index[key]? = none) : after.index[key]? = none := by
  by_contra held
  obtain ⟨entry, found⟩ := Option.ne_none_iff_exists'.mp held
  have account := sheds.count_add_present key
  rw [present_of_absent absent, present_of_found found] at account
  omega

theorem Sheds.ordered (sheds : Sheds storage departures after)
    (follows : storage.Follows residents now) (ordered : storage.tracker.Ordered) :
    after.tracker.Ordered := by
  induction sheds generalizing residents with
  | ends => exact ordered
  | sheds exceeds popped found subtracted rest ih =>
    exact ih (follows.pop popped _) (ordered.pop follows.indexed.sound popped)

theorem Follows.ordered_touch (follows : storage.Follows residents now)
    (ordered : storage.tracker.Ordered) (found : storage.index[key]? = some entry)
    (touched : storage.tracker.touch entry.slot = .ok tracker) : tracker.Ordered :=
  ordered.touch follows.indexed.sound
    ((follows.indexed.designates entry.slot key).mpr ⟨entry, found, rfl⟩) touched

private theorem Stores.ordered (stores : Stores storage key value departures after)
    (follows : storage.Follows residents now) (ordered : storage.tracker.Ordered) :
    after.tracker.Ordered := by
  cases stores with
  | overwrites entry found rest subtracted tracker touched _ _ sheds =>
    obtain ⟨_, -, -, overwritten⟩ := follows.touch found touched value (rest + value.length)
    exact sheds.ordered overwritten (follows.ordered_touch ordered found touched)
  | inserts absent older middle shedsOlder slot tracker pushed itself _ shedsItself =>
    have roomy := shedsOlder.follows (follows.counting _)
    have ordered' := shedsOlder.ordered (follows.counting _) ordered
    exact shedsItself.ordered (roomy.push (shedsOlder.absent absent) pushed value)
      (ordered'.push roomy.indexed.sound pushed)

theorem Performs.ordered {action : Action} {answer : Answer}
    (performs : Performs storage action after answer) (follows : storage.Follows residents now)
    (ordered : storage.tracker.Ordered) : after.tracker.Ordered := by
  cases performs with
  | add key value departures _ stores => exact stores.ordered follows ordered
  | get key value _ reads =>
    cases reads with
    | misses => exact ordered
    | hits entry found tracker touched => exact follows.ordered_touch ordered found touched
  | peek key => exact ordered

end Ordered

end PeerCache.Storage
