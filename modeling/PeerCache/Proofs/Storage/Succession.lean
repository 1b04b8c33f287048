import PeerCache.Proofs.Storage.Residence

/-! # The order of eviction from the history

Who leaves a storage next can be told from what happened to it. A key resides from the addition that
inserted it to its eviction, and is touched in between by additions and by reads that find it. The
order of eviction sorts the stored keys by these residences: by the last touch, by the beginning, or
by the number of touches and then the last one. Reads that miss, peeks and earlier residences of a
key have no part in it.
-/

namespace PeerCache.Storage

open Eviction (Policy Residence)

/-- A storage that starts empty and what happens to it, in order. -/
structure History where
  plan : Plan
  actions : List Action

/-- The storage after an action. A fault would leave it as it is. -/
def advance (storage : Storage) (action : Action) : Storage :=
  match storage.step action with
  | .ok (after, _) => after
  | .error _ => storage

namespace History

section Definitions

variable (history : History)

/-- The storage at a time, which is the one that the action at that time meets. -/
def storage (time : Nat) : Storage :=
  (history.actions.take time).foldl advance history.plan.build

/-- The key that the action at a moment touches. -/
def touched? (moment : Nat) : Option String :=
  (history.actions[moment]?).bind (history.storage moment).touched?

/-- The keys that leave with the action at a moment. -/
def departed (moment : Nat) : List String :=
  match (history.actions[moment]?).map (history.storage moment).step with
  | some (.ok (_, answer)) => answer.departures.map Departure.key
  | _ => []

/-- A key was inserted, and has not left since. -/
structure Resides (begun : Nat) (key : String) (time : Nat) : Prop where
  inserted : ∃ value, history.actions[begun]? = some (.add key value)
  absent : key ∉ (history.storage begun).index
  before : begun < time
  stays : ∀ moment, begun ≤ moment → moment < time → key ∉ history.departed moment

/-- The moments at which a key that was inserted is touched again. -/
def hits (begun : Nat) (key : String) (time : Nat) : Finset Nat :=
  (Finset.Ioo begun time).filter fun moment => history.touched? moment = some key

/-- What the history tells about a key that was inserted: when that was, how often it has been
touched, and when it was touched last. -/
def residence (begun : Nat) (key : String) (time : Nat) : Residence where
  begun
  frequency := 1 + (history.hits begun key time).card
  last := (insert begun (history.hits begun key time)).sup id

/-- What it means for the order of eviction of a storage that it follows from the history. -/
structure Succession : Prop where
  /-- No action faults. -/
  runs : ∀ time, ∃ answers,
    history.plan.build.run (history.actions.take time) = .ok (history.storage time, answers)
  /-- The keys that are stored are those that reside. -/
  stored : ∀ time key, key ∈ (history.storage time).index ↔ ∃ begun, history.Resides begun key time
  /-- A key resides only once at a time. -/
  single : ∀ time key first second, history.Resides first key time →
    history.Resides second key time → first = second
  /-- The order of eviction lists the stored keys, each once, sorted by their residences. -/
  sorted : ∀ time, ∃ keys, (history.storage time).order = .ok keys ∧ keys.Nodup ∧
    (∀ key, key ∈ keys ↔ key ∈ (history.storage time).index) ∧
    keys.Pairwise fun first second => ∀ begun begun', history.Resides begun first time →
      history.Resides begun' second time →
      history.plan.policy.Precedes (history.residence begun first time)
        (history.residence begun' second time)

/-- The residences at a time, kept step by step. -/
def residents : Nat → String → Option Residence
  | 0 => fun _ => none
  | time + 1 =>
    renewed (residents time) time (history.touched? time) (history.departed time)

end Definitions

variable {history : History} {begun time moment : Nat} {key : String}

/-! ## The storages of a history -/

private theorem storage_succ {action : Action} (found : history.actions[time]? = some action) :
    history.storage (time + 1) = (history.storage time).advance action := by
  unfold storage
  rw [List.take_add_one, found, Option.toList_some, List.foldl_append]
  rfl

theorem storage_succ_of_none (past : history.actions[time]? = none) :
    history.storage (time + 1) = history.storage time := by
  unfold storage
  rw [List.take_add_one, past, Option.toList_none, List.append_nil]

theorem sound (history : History) (time : Nat) : (history.storage time).Sound := by
  induction time with
  | zero => exact sound_build history.plan
  | succ time ih =>
    cases found : history.actions[time]? with
    | none =>
      rw [storage_succ_of_none found]
      exact ih
    | some action =>
      obtain ⟨after, answer, stepped, sound, -⟩ := step_ok ih action
      rw [storage_succ found, advance, stepped]
      exact sound

/-- Every action of a history leads to the next storage. -/
theorem advances {action : Action} (found : history.actions[time]? = some action) :
    ∃ answer, (history.storage time).step action = .ok (history.storage (time + 1), answer) ∧
      history.departed time = answer.departures.map Departure.key := by
  obtain ⟨after, answer, stepped, -⟩ := step_ok (history.sound time) action
  refine ⟨answer, ?_, ?_⟩
  · rw [storage_succ found, advance, stepped]
  · simp only [departed, found, Option.map_some, stepped]

theorem plan_eq (history : History) (time : Nat) : (history.storage time).plan = history.plan := by
  induction time with
  | zero => rfl
  | succ time ih =>
    cases found : history.actions[time]? with
    | none => rw [storage_succ_of_none found, ih]
    | some action =>
      obtain ⟨answer, stepped, -⟩ := history.advances found
      rw [(performs_of_step stepped).plan_eq, ih]

/-- One more action of a history is one more step of its run. -/
theorem run_take_succ {action : Action} {answer : Answer} {answers : List Answer}
    (found : history.actions[time]? = some action)
    (ran : history.plan.build.run (history.actions.take time) = .ok (history.storage time, answers))
    (stepped : (history.storage time).step action = .ok (history.storage (time + 1), answer)) :
    history.plan.build.run (history.actions.take (time + 1)) =
      .ok (history.storage (time + 1), answers ++ [answer]) := by
  rw [List.take_add_one, found, Option.toList_some]
  refine run_append ran ?_
  simp [run, stepped, bind, Except.bind, pure, Except.pure]

/-- The storages of a history are those that a run reaches. -/
theorem run_ok (history : History) (time : Nat) : ∃ answers,
    history.plan.build.run (history.actions.take time) = .ok (history.storage time, answers) := by
  induction time with
  | zero => exact ⟨[], rfl⟩
  | succ time ih =>
    obtain ⟨answers, ran⟩ := ih
    cases found : history.actions[time]? with
    | none =>
      refine ⟨answers, ?_⟩
      rw [List.take_add_one, found, Option.toList_none, List.append_nil, storage_succ_of_none found]
      exact ran
    | some action =>
      obtain ⟨answer, stepped, -⟩ := history.advances found
      exact ⟨answers ++ [answer], run_take_succ found ran stepped⟩

/-! ## Residences -/

/-- Whatever happened, the storage follows the residences that are kept step by step. -/
theorem follows (history : History) (time : Nat) :
    (history.storage time).Follows (history.residents time) time := by
  induction time with
  | zero => exact follows_build history.plan 0
  | succ time ih =>
    rw [residents, touched?]
    cases found : history.actions[time]? with
    | none =>
      have nobody : history.departed time = [] := by
        rw [departed, found]
        rfl
      rw [storage_succ_of_none found, nobody, Option.bind_none, renewed_none]
      exact ih.later (Nat.le_succ time)
    | some action =>
      obtain ⟨answer, stepped, departed⟩ := history.advances found
      rw [departed]
      exact (performs_of_step stepped).follows ih

private theorem Resides.extend (resides : history.Resides begun key time)
    (stays : key ∉ history.departed time) : history.Resides begun key (time + 1) := by
  refine ⟨resides.inserted, resides.absent, Nat.lt_succ_of_lt resides.before, ?_⟩
  intro moment since before
  rcases Nat.lt_succ_iff_lt_or_eq.mp before with earlier | rfl
  · exact resides.stays moment since earlier
  · exact stays

private theorem hits_succ (later : begun < time) :
    history.hits begun key (time + 1) = if history.touched? time = some key
      then insert time (history.hits begun key time) else history.hits begun key time := by
  have further : Finset.Ioo begun (time + 1) = insert time (Finset.Ioo begun time) := by
    ext moment
    simp only [Finset.mem_Ioo, Finset.mem_insert]
    omega
  rw [hits, further, Finset.filter_insert]
  rfl

private theorem residence_start (history : History) (key : String) (time : Nat) :
    history.residence time key (time + 1) = .start time := by
  have untouched : history.hits time key (time + 1) = ∅ := by
    rw [hits, Finset.filter_eq_empty_iff]
    intro moment between
    rw [Finset.mem_Ioo] at between
    omega
  simp [residence, untouched, Residence.start]

private theorem residence_succ (later : begun < time) :
    history.residence begun key (time + 1) = if history.touched? time = some key
      then (history.residence begun key time).touch time
      else history.residence begun key time := by
  unfold residence
  rw [hits_succ later]
  split
  case isTrue =>
    have bounded : ∀ moment ∈ history.hits begun key time, moment < time := fun moment member =>
      (Finset.mem_Ioo.mp (Finset.mem_filter.mp member).1).2
    have fresh : time ∉ history.hits begun key time := fun member =>
      (bounded time member).false
    have last : (insert begun (insert time (history.hits begun key time))).sup id = time := by
      refine le_antisymm (Finset.sup_le fun moment member => ?_)
        (Finset.le_sup (f := id) (by simp))
      rcases Finset.mem_insert.mp member with rfl | member
      · exact later.le
      · rcases Finset.mem_insert.mp member with rfl | member
        · exact le_rfl
        · exact (bounded moment member).le
    rw [Finset.card_insert_of_notMem fresh, last]
    rfl
  case isFalse => rfl

/-- Only an addition touches a key that is not stored. -/
theorem added_of_touched (touched : history.touched? time = some key)
    (absent : key ∉ (history.storage time).index) :
    ∃ value, history.actions[time]? = some (.add key value) := by
  obtain ⟨action, found, touched⟩ := Option.bind_eq_some_iff.mp touched
  cases action with
  | add other value =>
    cases touched
    exact ⟨value, found⟩
  | get other =>
    rw [Storage.touched?] at touched
    split at touched
    case isTrue stored =>
      cases touched
      exact absurd stored absent
    case isFalse => cases touched
  | peek other => cases touched

private theorem not_mem_iff_residents (history : History) (time : Nat) (key : String) :
    key ∉ (history.storage time).index ↔ history.residents time key = none := by
  rw [(history.follows time).resident, Std.ExtTreeMap.mem_iff_isSome_getElem?]
  simp

/-- The residences kept step by step are those that the history tells. -/
theorem Resides.residents_eq (resides : history.Resides begun key time) :
    history.residents time key = some (history.residence begun key time) := by
  induction time with
  | zero => exact absurd resides.before (Nat.not_lt_zero begun)
  | succ time ih =>
    have remains : key ∉ history.departed time :=
      resides.stays time (Nat.le_of_lt_succ resides.before) (Nat.lt_succ_self time)
    rw [residents, renewed, if_neg remains]
    rcases Nat.lt_succ_iff_lt_or_eq.mp resides.before with earlier | rfl
    · have known := ih ⟨resides.inserted, resides.absent, earlier, fun moment since before =>
        resides.stays moment since (Nat.lt_succ_of_lt before)⟩
      rw [known, residence_succ earlier]
      split <;> rfl
    · obtain ⟨value, inserted⟩ := resides.inserted
      have touched : history.touched? begun = some key := by
        rw [touched?, inserted]
        rfl
      rw [if_pos touched, (history.not_mem_iff_residents begun key).mp resides.absent,
        residence_start]
      rfl

/-- What resides was inserted. -/
theorem exists_resides {residence : Residence}
    (resident : history.residents time key = some residence) :
    ∃ begun, history.Resides begun key time := by
  induction time generalizing residence with
  | zero => cases resident
  | succ time ih =>
    rw [residents, renewed] at resident
    by_cases left : key ∈ history.departed time
    · rw [if_pos left] at resident
      cases resident
    · cases before : history.residents time key with
      | some residence' =>
        obtain ⟨begun, resides⟩ := ih before
        exact ⟨begun, resides.extend left⟩
      | none =>
        rw [if_neg left, before] at resident
        split at resident
        case isTrue touched =>
          have absent := (history.not_mem_iff_residents time key).mpr before
          refine ⟨time, added_of_touched touched absent, absent, Nat.lt_succ_self time, ?_⟩
          intro moment since bound
          obtain rfl : moment = time := by omega
          exact left
        case isFalse => cases resident

/-! ## Succession -/

/-- The order of eviction follows from the history. -/
theorem succession (history : History) : history.Succession where
  runs := history.run_ok
  stored := by
    intro time key
    constructor
    · intro stored
      have resident := mt (history.not_mem_iff_residents time key).mpr (not_not_intro stored)
      obtain ⟨residence, resident⟩ := Option.ne_none_iff_exists'.mp resident
      exact exists_resides resident
    · rintro ⟨begun, resides⟩
      by_contra absent
      rw [not_mem_iff_residents, resides.residents_eq] at absent
      cases absent
  single := by
    intro time key first second resides resides'
    have same := resides.residents_eq.symm.trans resides'.residents_eq
    exact congrArg Residence.begun (Option.some.inj same)
  sorted := by
    intro time
    obtain ⟨keys, ordered, nodup, listed⟩ := (history.sound time).indexed.order
    obtain ⟨keys', ordered', sorted⟩ := (history.follows time).order
    cases ordered.symm.trans ordered'
    rw [plan_eq] at sorted
    refine ⟨keys, ordered, nodup, listed, sorted.imp ?_⟩
    intro first second precedes begun begun' resides resides'
    exact precedes _ _ resides.residents_eq resides'.residents_eq

/-- A read that finds a key is a touch, but a peek is none. -/
example : (Plan.build { policy := .lru }).run [.add "Sam" [1], .add "Tom" [2], .add "Jack" [3],
      .get "Tom", .peek "Sam"] >>= (fun (storage, _) => storage.order) =
    .ok ["Sam", "Jack", "Tom"] := by
  decide +kernel

end History

end PeerCache.Storage
