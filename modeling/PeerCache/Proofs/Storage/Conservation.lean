import PeerCache.Proofs.Storage.Succession

/-! # Conservation of entries

Nothing is lost in a storage, and nothing comes back. A value that was added for a key is what a
read finds until another value is added for the key or the listener hears that the entry left. Every
insertion of a key is made up for by one report of its departure or by the entry that is stored, and
what is reported of a key is the value that was added last.
-/

namespace PeerCache.Storage

/-- The value that an action writes for a key. -/
def Action.written? : Action → String → Option Bytes
  | .add key value, other => if other = key then some value else none
  | .get _, _ => none
  | .peek _, _ => none

section Values

variable {storage after : Storage} {key : String} {value : Bytes} {departures : List Departure}

private theorem Action.written?_eq_some_iff {action : Action} :
    action.written? key = some value ↔ action = .add key value := by
  cases action with
  | add other value' =>
    by_cases same : key = other
    · subst same
      simp [written?]
    · have different : other ≠ key := fun equal => same equal.symm
      simp [written?, same, different]
  | get other => simp [written?]
  | peek other => simp [written?]

private theorem Sheds.held (sheds : Sheds storage departures after) {entry : Entry}
    (found : after.index[key]? = some entry) : storage.index[key]? = some entry := by
  induction sheds with
  | ends => exact found
  | @sheds storage after victim shed tracker usage later exceeds popped leaves subtracted rest ih =>
    have kept := ih found
    by_cases same : key = victim
    · simp [same] at kept
    · rwa [getElem?_erase_of_ne same] at kept

private theorem Sheds.taken (sheds : Sheds storage departures after) {departure : Departure}
    (member : departure ∈ departures) : storage.peek departure.key = some departure.value := by
  induction sheds with
  | ends => cases member
  | @sheds storage after victim entry tracker usage later exceeds popped found subtracted rest ih =>
    rcases List.mem_cons.mp member with rfl | member
    · simp [peek, found]
    · have held := ih member
      by_cases same : departure.key = victim
      · simp [peek, same] at held
      · rwa [peek, getElem?_erase_of_ne same] at held

/-- Who leaves with an addition takes the value that was added, or the one that was stored. -/
theorem Stores.taken (stores : Stores storage key value departures after) {departure : Departure}
    (member : departure ∈ departures) :
    ((Action.add key value).written? departure.key).or (storage.peek departure.key) =
      some departure.value := by
  cases stores with
  | overwrites entry found rest subtracted tracker touched _ _ sheds =>
    have held := sheds.taken member
    by_cases same : departure.key = key
    · simpa [peek, Action.written?, same] using held
    · rw [peek, getElem?_insert_of_ne same] at held
      rw [Action.written?, if_neg same, Option.none_or]
      exact held
  | inserts absent older middle shedsOlder slot tracker pushed itself _ shedsItself =>
    rcases List.mem_append.mp member with early | late
    · have held := shedsOlder.taken early
      have same : departure.key ≠ key := by
        intro same
        rw [peek, same, absent] at held
        cases held
      rw [Action.written?, if_neg same, Option.none_or]
      exact held
    · have held := shedsItself.taken late
      by_cases same : departure.key = key
      · simpa [peek, Action.written?, same] using held
      · rw [peek, getElem?_insert_of_ne same] at held
        obtain ⟨entry, found, same'⟩ := Option.map_eq_some_iff.mp held
        simp [Action.written?, same, peek, shedsOlder.held found, same']

private theorem Performs.taken {action : Action} {answer : Answer}
    (performs : Performs storage action after answer) {departure : Departure}
    (member : departure ∈ answer.departures) :
    (action.written? departure.key).or (storage.peek departure.key) = some departure.value := by
  cases performs with
  | add key value departures _ stores => exact stores.taken member
  | get key value _ reads => cases member
  | peek key => cases member

/-- After an action, a read finds what was written or else what was stored, unless the key left. -/
theorem peek_of_step (sound : storage.Sound) {action : Action} {answer : Answer}
    (stepped : storage.step action = .ok (after, answer)) (key : String) :
    after.peek key = if key ∈ answer.departures.map Departure.key then none
      else (action.written? key).or (storage.peek key) := by
  cases action with
  | add other value =>
    obtain ⟨departures, last, added, -, adds⟩ := add_ok sound other value
    simp only [step, added, bind, Except.bind, pure, Except.pure, Except.ok.injEq,
      Prod.mk.injEq] at stepped
    obtain ⟨rfl, rfl⟩ := stepped
    rw [adds.peek, Answer.departures]
    by_cases same : key = other <;> simp [Action.written?, same]
  | get other =>
    obtain ⟨tracker, got, -⟩ := get_ok sound other
    simp only [step, got, bind, Except.bind, pure, Except.pure, Except.ok.injEq,
      Prod.mk.injEq] at stepped
    obtain ⟨rfl, rfl⟩ := stepped
    rfl
  | peek other =>
    cases stepped
    rfl

end Values

namespace History

section Definitions

variable (history : History)

/-- The last addition of a key before a time, and the value that it wrote. -/
structure Wrote (moment : Nat) (key : String) (value : Bytes) (time : Nat) : Prop where
  added : history.actions[moment]? = some (.add key value)
  before : moment < time
  last : ∀ later value', moment < later → later < time →
    history.actions[later]? ≠ some (.add key value')

/-- What the listener hears during the action at a moment. -/
def heard (moment : Nat) : List Departure :=
  match (history.actions[moment]?).map (history.storage moment).step with
  | some (.ok (_, answer)) => history.plan.reported answer.departures
  | _ => []

/-- All that the listener has heard at a time. -/
def hearings (time : Nat) : List Departure := (List.range time).flatMap history.heard

/-- A value that was written last for a key, and of which the listener has heard neither during that
addition nor since. -/
structure Stands (moment : Nat) (key : String) (value : Bytes) (time : Nat) : Prop
    extends history.Wrote moment key value time where
  unheard : ∀ later, moment ≤ later → later < time → key ∉ (history.heard later).map Departure.key

/-- The action at a moment adds a value for a key that is not stored. -/
def Inserts (moment : Nat) (key : String) : Prop :=
  (history.actions[moment]?).bind Action.added? = some key ∧ key ∉ (history.storage moment).index

instance (moment : Nat) (key : String) : Decidable (history.Inserts moment key) :=
  inferInstanceAs (Decidable (_ ∧ _))

/-- What it means for the entries of a storage to be conserved. -/
structure Conservation : Prop where
  /-- No action faults, and the listener hears of all that left. -/
  runs : ∀ time, ∃ answers,
    history.plan.build.run (history.actions.take time) = .ok (history.storage time, answers) ∧
      history.hearings time = answers.flatMap Answer.departures
  /-- What is stored for a key is what was written last, until it leaves. -/
  peeked : ∀ time key value, (history.storage time).peek key = some value ↔
    ∃ moment, history.Stands moment key value time
  /-- A read that counts as a touch finds the same. -/
  got : ∀ time key, ∃ after,
    (history.storage time).get key = .ok ((history.storage time).peek key, after)
  /-- Of the entries of a key that were inserted, all have left but the one that is stored. -/
  balanced : ∀ time key, Nat.count (history.Inserts · key) time =
    ((history.hearings time).map Departure.key).count key +
      if key ∈ (history.storage time).index then 1 else 0
  /-- What is reported of a key is the value that was written last. -/
  faithful : ∀ moment, ∀ departure ∈ history.heard moment,
    ∃ written, history.Wrote written departure.key departure.value (moment + 1)

end Definitions

variable {history : History} {moment time : Nat} {key : String} {value : Bytes}

/-! ## Additions and departures, action by action -/

/-- The value that the action at a moment writes for a key. -/
def written? (history : History) (moment : Nat) (key : String) : Option Bytes :=
  (history.actions[moment]?).bind (·.written? key)

private theorem written?_eq_some_iff : history.written? moment key = some value ↔
    history.actions[moment]? = some (.add key value) := by
  rw [written?, Option.bind_eq_some_iff]
  simp only [Action.written?_eq_some_iff, exists_eq_right]

private theorem written?_eq_none_iff : history.written? moment key = none ↔
    ∀ value, history.actions[moment]? ≠ some (.add key value) := by
  simp only [Option.eq_none_iff_forall_ne_some, ne_eq, written?_eq_some_iff]

private theorem wrote_succ_iff : history.Wrote moment key value (time + 1) ↔
    (moment = time ∧ history.written? time key = some value) ∨
      (history.written? time key = none ∧ history.Wrote moment key value time) := by
  constructor
  · intro wrote
    rcases Nat.lt_succ_iff_lt_or_eq.mp wrote.before with earlier | rfl
    · refine .inr ⟨written?_eq_none_iff.mpr fun value' => ?_, wrote.added, earlier, ?_⟩
      · exact wrote.last time value' earlier (Nat.lt_succ_self time)
      · intro later value' since before
        exact wrote.last later value' since (Nat.lt_succ_of_lt before)
    · exact .inl ⟨rfl, written?_eq_some_iff.mpr wrote.added⟩
  · rintro (⟨rfl, written⟩ | ⟨unwritten, wrote⟩)
    · refine ⟨written?_eq_some_iff.mp written, Nat.lt_succ_self moment, ?_⟩
      intro later value' since before
      omega
    · refine ⟨wrote.added, Nat.lt_succ_of_lt wrote.before, ?_⟩
      intro later value' since before
      rcases Nat.lt_succ_iff_lt_or_eq.mp before with earlier | rfl
      · exact wrote.last later value' since earlier
      · exact written?_eq_none_iff.mp unwritten value'

/-- A value stands until its key is heard of or gets another. -/
theorem stands_succ_iff : history.Stands moment key value (time + 1) ↔
    key ∉ (history.heard time).map Departure.key ∧
      ((moment = time ∧ history.written? time key = some value) ∨
        (history.written? time key = none ∧ history.Stands moment key value time)) := by
  constructor
  · intro stands
    have since : moment ≤ time := Nat.le_of_lt_succ stands.before
    refine ⟨stands.unheard time since (Nat.lt_succ_self time), ?_⟩
    rcases wrote_succ_iff.mp stands.toWrote with ⟨same, written⟩ | ⟨unwritten, wrote⟩
    · exact .inl ⟨same, written⟩
    · refine .inr ⟨unwritten, wrote, fun later since before => ?_⟩
      exact stands.unheard later since (Nat.lt_succ_of_lt before)
  · rintro ⟨silent, ⟨rfl, written⟩ | ⟨unwritten, stands⟩⟩
    · refine ⟨wrote_succ_iff.mpr (.inl ⟨rfl, written⟩), fun later since before => ?_⟩
      obtain rfl : later = moment := by omega
      exact silent
    · refine ⟨wrote_succ_iff.mpr (.inr ⟨unwritten, stands.toWrote⟩), fun later since before => ?_⟩
      rcases Nat.lt_succ_iff_lt_or_eq.mp before with earlier | rfl
      · exact stands.unheard later since earlier
      · exact silent

private theorem hearings_succ (history : History) (time : Nat) :
    history.hearings (time + 1) = history.hearings time ++ history.heard time := by
  simp [hearings, List.range_succ]

private theorem heard_of_none (past : history.actions[time]? = none) : history.heard time = [] := by
  rw [heard, past]
  rfl

theorem hears (listens : history.plan.listens = true) {action : Action}
    (found : history.actions[time]? = some action) :
    ∃ answer, (history.storage time).step action = .ok (history.storage (time + 1), answer) ∧
      history.heard time = answer.departures := by
  obtain ⟨answer, stepped, -⟩ := history.advances found
  refine ⟨answer, stepped, ?_⟩
  simp only [heard, found, Option.map_some, stepped, Plan.reported, listens, if_true]

/-! ## Conservation -/

section Listening

variable (listens : history.plan.listens = true)

include listens

/-- After an action, a read finds what was written or else what was stored, unless the key was heard
of. -/
theorem peek_succ (time : Nat) (key : String) : (history.storage (time + 1)).peek key =
    if key ∈ (history.heard time).map Departure.key then none
    else (history.written? time key).or ((history.storage time).peek key) := by
  cases found : history.actions[time]? with
  | none => simp [storage_succ_of_none found, heard_of_none found, written?, found]
  | some action =>
    obtain ⟨answer, stepped, heard⟩ := hears listens found
    rw [peek_of_step (history.sound time) stepped, heard, written?, found, Option.bind_some]

/-- What is stored for a key is what was written last, until it leaves. -/
theorem peek_eq_some_iff (time : Nat) (key : String) (value : Bytes) :
    (history.storage time).peek key = some value ↔
      ∃ moment, history.Stands moment key value time := by
  induction time generalizing value with
  | zero =>
    have empty : (history.storage 0).peek key = none := by simp [storage, Plan.build, peek]
    rw [empty]
    refine iff_of_false (Option.some_ne_none value).symm ?_
    rintro ⟨moment, stands⟩
    exact absurd stands.before (Nat.not_lt_zero moment)
  | succ time ih =>
    rw [peek_succ listens]
    simp only [stands_succ_iff, exists_and_left]
    by_cases left : key ∈ (history.heard time).map Departure.key
    · simp [left]
    · simp only [left, if_false, not_false_eq_true, true_and, Option.or_eq_some_iff, ih]
      rw [exists_or, exists_and_left, exists_eq_left]

private theorem wrote_of_heard {departure : Departure} (heard : departure ∈ history.heard time) :
    ∃ moment, history.Wrote moment departure.key departure.value (time + 1) := by
  cases found : history.actions[time]? with
  | none => simp [heard_of_none found] at heard
  | some action =>
    obtain ⟨answer, stepped, same⟩ := hears listens found
    rw [same] at heard
    have taken := (performs_of_step stepped).taken heard
    have written : action.written? departure.key = history.written? time departure.key := by
      rw [written?, found, Option.bind_some]
    rw [written, Option.or_eq_some_iff, peek_eq_some_iff listens] at taken
    rcases taken with written | ⟨unwritten, moment, stands⟩
    · exact ⟨time, wrote_succ_iff.mpr (.inl ⟨rfl, written⟩)⟩
    · exact ⟨moment, wrote_succ_iff.mpr (.inr ⟨unwritten, stands.toWrote⟩)⟩

/-- Of the entries of a key that were inserted, all have left but the one that is stored. -/
theorem count_inserts (time : Nat) (key : String) : Nat.count (history.Inserts · key) time =
    ((history.hearings time).map Departure.key).count key +
      present (history.storage time).index key := by
  induction time with
  | zero => simp [hearings, storage, Plan.build, present]
  | succ time ih =>
    rw [Nat.count_succ, ih, hearings_succ, List.map_append, List.count_append, Nat.add_assoc,
      Nat.add_assoc, Nat.add_left_cancel_iff]
    cases found : history.actions[time]? with
    | none =>
      have nothing : ¬ history.Inserts time key := by simp [Inserts, found]
      simp [nothing, storage_succ_of_none found, heard_of_none found]
    | some action =>
      obtain ⟨answer, stepped, heard⟩ := hears listens found
      rw [heard, (performs_of_step stepped).count_add_present]
      simp only [Inserts, found, Option.bind_some, present]
      by_cases added : action.added? = some key
      · by_cases stored : key ∈ (history.storage time).index <;> simp [added, stored]
      · simp [added]

private theorem run_hearings (time : Nat) : ∃ answers,
    history.plan.build.run (history.actions.take time) = .ok (history.storage time, answers) ∧
      history.hearings time = answers.flatMap Answer.departures := by
  induction time with
  | zero => exact ⟨[], rfl, rfl⟩
  | succ time ih =>
    obtain ⟨answers, ran, same⟩ := ih
    rw [hearings_succ, same]
    cases found : history.actions[time]? with
    | none =>
      refine ⟨answers, ?_, by simp [heard_of_none found]⟩
      rw [List.take_add_one, found, Option.toList_none, List.append_nil, storage_succ_of_none found]
      exact ran
    | some action =>
      obtain ⟨answer, stepped, heard⟩ := hears listens found
      exact ⟨answers ++ [answer], run_take_succ found ran stepped, by simp [heard]⟩

/-- Whatever is added, overwritten and read, no entry is lost, doubled or brought back. -/
theorem conservation : history.Conservation where
  runs := run_hearings listens
  peeked := peek_eq_some_iff listens
  got := by
    intro time key
    obtain ⟨tracker, got, -⟩ := get_ok (history.sound time) key
    exact ⟨_, got⟩
  balanced := count_inserts listens
  faithful _ _ := wrote_of_heard listens

end Listening

/-- An overwritten entry drives out another one, and then a newcomer that exceeds the budget alone
empties the storage. -/
def crowded : History where
  plan := { capacity := 8, policy := .lfu, listens := true }
  actions := [.add "Sam" [1], .add "Tom" [], .add "Sam" [2, 3, 4], .add "Jack" [5, 6, 7, 8, 9]]

theorem conservation_crowded : crowded.plan.listens = true ∧ crowded.Conservation ∧
    crowded.hearings 4 = [⟨"Tom", []⟩, ⟨"Sam", [2, 3, 4]⟩, ⟨"Jack", [5, 6, 7, 8, 9]⟩] :=
  ⟨rfl, conservation rfl, by decide +kernel⟩

end History

end PeerCache.Storage
