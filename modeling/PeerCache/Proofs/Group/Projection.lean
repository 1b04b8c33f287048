import PeerCache.Proofs.Group.Storekeeping

/-! # The storage behind a history

The storage of a group is a plain storage under a projected history: what remains of the actions on
the group when only the first polls of gets and the successful loads are kept, each as one action of
the storage. Lookups that miss, second looks, waiting, fetches, failed loads and cancelled gets are
not in it, so none of them can have touched an entry or moved it in the order of eviction.
-/

namespace PeerCache.Group.History

section Definitions

variable (history : History)

/-- What the action at a moment does with the storage. -/
def use? (moment : Nat) : Option Storage.Action :=
  (history.actions[moment]?).bind (history.group moment).use?

/-- Everything that was done with the storage before a time, in order. -/
def uses (time : Nat) : List Storage.Action := (List.range time).filterMap history.use?

/-- What it means for the storage of a group that it is a plain storage under a projected
history. -/
structure Projection : Prop where
  runs : history.Runs
  /-- A key is read when a get of it is polled for the first time, unless it is the empty key. -/
  reads : ∀ moment key, history.use? moment = some (.get key) ↔
    key ≠ "" ∧ ∃ created call, history.Gets created moment call key moment
  /-- A value is added when the loader gives it to a computation of the key. -/
  writes : ∀ moment key value, history.use? moment = some (.add key value) ↔
    history.Loads moment key (.ok value)
  /-- Nothing else is done. -/
  unpeeked : ∀ moment key, history.use? moment ≠ some (.peek key)
  /-- At all times the storage of the group, with its entries, its usage and its order of eviction,
  is what these actions make of a storage that was built at the start. The same entries left it, in
  the same order, and a listener hears of all of them or of none. -/
  refines : ∀ time, ∃ answers,
    history.plan.build.run (history.uses time) = .ok ((history.group time).holding, answers) ∧
      history.departures time = answers.flatMap Storage.Answer.departures
  /-- At a moment at which nothing is done, the storage stays as it is, built or not. -/
  untouched : ∀ moment, history.use? moment = none →
    (history.group (moment + 1)).storage = (history.group moment).storage
  /-- What the group shows of its storage is the same whether it has been built already. -/
  shown : ∀ time, (history.group time).size = (history.group time).holding.size ∧
    (history.group time).usage = (history.group time).holding.usage ∧
    ∀ key, (history.group time).peek key = (history.group time).holding.peek key

end Definitions

variable {history : History} {time moment : Nat} {key : String}

private theorem uses_succ :
    history.uses (time + 1) = history.uses time ++ (history.use? time).toList := by
  rw [uses, List.range_succ, List.filterMap_append]
  cases used : history.use? time <;> simp [uses, used]

private theorem use?_of_none (past : history.actions[moment]? = none) :
    history.use? moment = none := by
  rw [use?, past]
  rfl

private theorem use?_of_found {action : Action} (found : history.actions[moment]? = some action) :
    history.use? moment = (history.group moment).use? action := by
  rw [use?, found]
  rfl

/-- From one moment to the next, the storage is used once or not at all. -/
theorem handles (history : History) (moment : Nat) :
    Handles (history.group moment) (history.group (moment + 1)) (history.use? moment)
      (history.departuresAt moment) := by
  cases found : history.actions[moment]? with
  | none =>
    rw [group_succ_of_none found, use?_of_none found, departuresAt_of_none found]
    exact .nothing rfl rfl
  | some action =>
    obtain ⟨outcome, stepped, -, next⟩ := history.advances found
    rw [next, use?_of_found found, departuresAt_of_step found stepped]
    exact handles_of_step stepped

/-! ## What uses stand for -/

theorem use?_eq_get_iff : history.use? moment = some (.get key) ↔
    key ≠ "" ∧ ∃ created call, history.Gets created moment call key moment := by
  constructor
  · intro used
    obtain ⟨action, found, used⟩ := Option.bind_eq_some_iff.mp used
    unfold Group.use? at used
    split at used
    case h_1 call owner =>
      obtain ⟨key', arrived, used⟩ := Option.bind_eq_some_iff.mp used
      split at used
      · cases used
      case isFalse nonempty =>
        obtain rfl : key' = key := by simpa using used
        obtain ⟨created, arrives⟩ := exists_arrives arrived
        exact ⟨nonempty, created, call, arrives.gets found⟩
    case h_2 => split at used <;> cases used
    case h_3 => cases used
  · rintro ⟨nonempty, created, call, gets⟩
    obtain ⟨owner, found⟩ := gets.begins
    have arrived := gets.arrives.stays moment gets.arrives.earlier le_rfl
    rw [use?_of_found found]
    simp only [Group.use?, arrived, Option.bind_some, if_neg nonempty]

theorem use?_eq_add_iff {value : Bytes} : history.use? moment = some (.add key value) ↔
    history.Loads moment key (.ok value) := by
  constructor
  · intro used
    obtain ⟨action, found, used⟩ := Option.bind_eq_some_iff.mp used
    unfold Group.use? at used
    split at used
    case h_1 =>
      obtain ⟨key', -, used⟩ := Option.bind_eq_some_iff.mp used
      split at used <;> cases used
    case h_2 call value' =>
      split at used
      case h_1 key' errand =>
        cases used
        exact ⟨call, found, errand⟩
      case h_2 => cases used
    case h_3 => cases used
  · rintro ⟨call, found, errand⟩
    rw [use?_of_found found]
    simp only [Group.use?, errand]

private theorem use?_ne_peek : history.use? moment ≠ some (.peek key) := by
  intro used
  obtain ⟨action, -, used⟩ := Option.bind_eq_some_iff.mp used
  unfold Group.use? at used
  split at used
  · obtain ⟨key', -, used⟩ := Option.bind_eq_some_iff.mp used
    split at used <;> cases used
  · split at used <;> cases used
  · cases used

/-! ## The projected run -/

theorem run_uses (history : History) (time : Nat) : ∃ answers,
    history.plan.build.run (history.uses time) = .ok ((history.group time).holding, answers) ∧
      history.departures time = answers.flatMap Storage.Answer.departures := by
  induction time with
  | zero => exact ⟨[], rfl, rfl⟩
  | succ time ih =>
    obtain ⟨answers, ran, left⟩ := ih
    rw [uses_succ, departures_succ, left]
    have handles := history.handles time
    generalize history.use? time = use, history.departuresAt time = departed at handles ⊢
    cases handles with
    | nothing plan same =>
      have held : (history.group (time + 1)).holding = (history.group time).holding := by
        rw [holding, holding, same, plan]
      rw [held, Option.toList_none, List.append_nil, List.append_nil]
      exact ⟨answers, ran, rfl⟩
    | once action answer plan stepped =>
      refine ⟨answers ++ [answer], Storage.run_append ran ?_, by simp⟩
      simp [Storage.run, stepped, bind, Except.bind, pure, Except.pure]

theorem storage_of_unused (unused : history.use? moment = none) :
    (history.group (moment + 1)).storage = (history.group moment).storage := by
  have handles := history.handles moment
  rw [unused] at handles
  generalize history.departuresAt moment = departed at handles
  cases handles with
  | nothing plan same => exact same

/-- The storage of a group is a plain storage under the projected history, at all times. -/
theorem projection (history : History) : history.Projection where
  runs := history.runs
  reads _ _ := use?_eq_get_iff
  writes _ _ _ := use?_eq_add_iff
  unpeeked _ _ := use?_ne_peek
  refines := history.run_uses
  untouched _ := storage_of_unused
  shown time := shown_holding (history.group time)

/-- A get that takes over from one that was cancelled finds what a third has loaded meanwhile, and
its second look is no touch. -/
example : ((create "scores" { policy := .lru }).run [.call 1 "Tom", .call 2 "Tom", .call 3 "Tom",
      .call 4 "Jack", .poll 1 none, .poll 2 none, .drop 1, .poll 3 none, .loaded 3 (.ok [54]),
      .poll 4 none, .loaded 4 (.ok [51]), .poll 2 none]).map
        (fun (group, _) => group.storage.map Storage.order) =
    .ok (some (.ok ["Tom", "Jack"])) := by
  decide +kernel

end PeerCache.Group.History
