import PeerCache.Proofs.Flight.Effects

/-! # The history of a run

A run of a flight leaves one flight after each of its actions. Here times are positions in the list
of actions, and the flight at a time is the one that the action at that time meets. Who leads at a
time is a matter of history: the calls whose computation started earlier and has not ended since. So
is who waits: a call that was polled earlier, was given a mailbox in the record of a computation
that was then underway, and has not been served since.

The numbers of calls may be reused once a call is over. What belongs to one call is therefore told
from its life, which begins when the call is created.
-/

namespace PeerCache.Flight

variable {α : Type}

/-- The flight after the first actions of a run that began with the empty flight. -/
def trajectory (actions : List (Action α)) (time : Nat) : Flight α :=
  (empty.run (actions.take time)).1

/-- What an action of the run led to. -/
def outcomeAt? (actions : List (Action α)) (time : Nat) : Option (Outcome α) :=
  actions[time]?.map (trajectory actions time).step

/-! ## Runs as trajectories -/

theorem run_append (flight : Flight α) (first second : List (Action α)) :
    flight.run (first ++ second) =
      (((flight.run first).1.run second).1,
        (flight.run first).2 ++ ((flight.run first).1.run second).2) := by
  induction first generalizing flight with
  | nil => rfl
  | cons action rest ih => simp only [List.cons_append, run, ih]

theorem trajectory_zero (actions : List (Action α)) : trajectory actions 0 = empty :=
  rfl

theorem trajectory_succ {actions : List (Action α)} {time : Nat} {action : Action α}
    (found : actions[time]? = some action) :
    trajectory actions (time + 1) = ((trajectory actions time).step action).flight := by
  unfold trajectory
  rw [List.take_add_one, found, Option.toList_some, run_append]
  rfl

theorem trajectory_succ_of_none {actions : List (Action α)} {time : Nat}
    (past : actions[time]? = none) :
    trajectory actions (time + 1) = trajectory actions time := by
  unfold trajectory
  rw [List.take_add_one, past, Option.toList_none, List.append_nil]

/-- A run ends with the last flight of its trajectory. -/
theorem run_eq_trajectory (actions : List (Action α)) :
    (empty.run actions).1 = trajectory actions actions.length := by
  rw [trajectory, List.take_length]

/-- The answers of a run are those of the actions along its trajectory. -/
theorem run_answers (actions : List (Action α)) (time : Nat) :
    (empty.run actions).2[time]? =
      (outcomeAt? actions time).map fun outcome => (outcome.answer, outcome.events) := by
  have general : ∀ (flight : Flight α) (rest : List (Action α)) (position : Nat),
      (flight.run rest).2[position]? =
        rest[position]?.map fun action =>
          let outcome := (flight.run (rest.take position)).1.step action
          (outcome.answer, outcome.events) := by
    intro flight rest position
    induction rest generalizing flight position with
    | nil => rfl
    | cons action rest ih =>
      cases position with
      | zero => rfl
      | succ position =>
        simp only [run, List.getElem?_cons_succ, List.take_succ_cons]
        exact ih _ _
  rw [general, outcomeAt?, Option.map_map]
  rfl

/-- Every flight of a run is consistent. -/
theorem trajectory_consistent (actions : List (Action α)) (time : Nat) :
    (trajectory actions time).Consistent := by
  induction time with
  | zero => exact consistent_empty
  | succ time ih =>
    cases found : actions[time]? with
    | none =>
      rw [trajectory_succ_of_none found]
      exact ih
    | some action =>
      rw [trajectory_succ found]
      exact (ih.turn action).consistent ih

theorem turn_of_outcomeAt? {actions : List (Action α)} {time : Nat} {outcome : Outcome α}
    (found : outcomeAt? actions time = some outcome) :
    ∃ action, actions[time]? = some action ∧ (trajectory actions time).Turn action outcome ∧
      trajectory actions (time + 1) = outcome.flight := by
  obtain ⟨action, taken, rfl⟩ := Option.map_eq_some_iff.mp found
  exact ⟨action, taken, (trajectory_consistent actions time).turn action, trajectory_succ taken⟩

/-! ## What happens at a time -/

section History

variable (actions : List (Action α))

/-- The computation of a call starts. -/
def Starts (time call : Nat) : Prop :=
  ∃ outcome, outcomeAt? actions time = some outcome ∧ .started call ∈ outcome.events

/-- The computation of a call returns a value. -/
def Finishes (time call : Nat) (value : α) : Prop :=
  ∃ outcome, outcomeAt? actions time = some outcome ∧ .finished call value ∈ outcome.events

/-- The computation of a call returns a value or is cancelled with its call. -/
def Stops (time call : Nat) : Prop :=
  actions[time]? = some (.drop call) ∨ ∃ value, Finishes actions time call value

/-- A call is polled. -/
def Polls (time call : Nat) : Prop :=
  ∃ ready, actions[time]? = some (.poll call ready)

/-- A call is polled and returns a value. -/
def Returns (time call : Nat) (value : α) : Prop :=
  Polls actions time call ∧
    ∃ outcome, outcomeAt? actions time = some outcome ∧ outcome.answer = .returned value

/-- A call comes into being. -/
def Creates (time call : Nat) (key : String) : Prop :=
  actions[time]? = some (.call call key) ∧ call ∉ (trajectory actions time).calls

/-- The call that was created at some time for a key is still the one with its number. -/
structure Lives (created call : Nat) (key : String) (time : Nat) : Prop where
  creates : Creates actions created call key
  earlier : created < time
  live : ∀ moment, created < moment → moment ≤ time → call ∈ (trajectory actions moment).calls

/-- A computation of this key has started and, before this time, neither returned nor been
cancelled. -/
structure Underway (started call : Nat) (key : String) (time : Nat) : Prop where
  starts : Starts actions started call
  key : (trajectory actions started).key? call = some key
  earlier : started < time
  runs : ∀ moment, started ≤ moment → moment < time → ¬ Stops actions moment call

end History

variable {actions : List (Action α)} {time started created call : Nat} {key : String}

theorem outcomeAt?_of_found {action : Action α} (found : actions[time]? = some action) :
    outcomeAt? actions time = some ((trajectory actions time).step action) := by
  rw [outcomeAt?, found, Option.map_some]

theorem starts_iff {action : Action α} (found : actions[time]? = some action) :
    Starts actions time call ↔ .started call ∈ ((trajectory actions time).step action).events := by
  simp [Starts, outcomeAt?_of_found found]

theorem finishes_iff {action : Action α} (found : actions[time]? = some action) {value : α} :
    Finishes actions time call value ↔
      .finished call value ∈ ((trajectory actions time).step action).events := by
  simp [Finishes, outcomeAt?_of_found found]

theorem stops_iff {action : Action α} (found : actions[time]? = some action) :
    Stops actions time call ↔ Ends action ((trajectory actions time).step action) call := by
  simp [Stops, Ends, found, finishes_iff found]

theorem not_starts_of_none (past : actions[time]? = none) : ¬ Starts actions time call := by
  simp [Starts, outcomeAt?, past]

theorem not_stops_of_none (past : actions[time]? = none) : ¬ Stops actions time call := by
  simp [Stops, Finishes, outcomeAt?, past]

/-- Nothing is left of a call whose computation stopped. -/
theorem Stops.gone (stops : Stops actions time call) :
    (trajectory actions (time + 1)).calls[call]? = none := by
  cases found : actions[time]? with
  | none => exact absurd stops (not_stops_of_none found)
  | some action =>
    rw [trajectory_succ found]
    have turn := (trajectory_consistent actions time).turn action
    exact turn.gone_of_ends ((stops_iff found).mp stops)

/-! ## Leading -/

theorem underway_succ_iff :
    Underway actions started call key (time + 1) ↔
      (Underway actions started call key time ∨ started = time ∧ Starts actions time call ∧
        (trajectory actions time).key? call = some key) ∧ ¬ Stops actions time call := by
  constructor
  · intro underway
    refine ⟨?_, underway.runs time (by have := underway.earlier; omega) (by omega)⟩
    rcases Nat.lt_succ_iff_lt_or_eq.mp underway.earlier with earlier | rfl
    · exact .inl ⟨underway.starts, underway.key, earlier,
        fun moment since before => underway.runs moment since (by omega)⟩
    · exact .inr ⟨rfl, underway.starts, underway.key⟩
  · rintro ⟨underway | ⟨rfl, starts, known⟩, runs⟩
    · refine ⟨underway.starts, underway.key, by have := underway.earlier; omega, ?_⟩
      intro moment since before
      rcases Nat.lt_succ_iff_lt_or_eq.mp before with earlier | rfl
      · exact underway.runs moment since earlier
      · exact runs
    · refine ⟨starts, known, by omega, ?_⟩
      intro moment since before
      obtain rfl : moment = started := by omega
      exact runs

/-- Those that lead are those whose computation is underway. -/
theorem leads_iff_underway :
    (trajectory actions time).Leads call key ↔
      ∃ started, Underway actions started call key time := by
  induction time with
  | zero =>
    constructor
    · intro leads
      simp [Leads, trajectory_zero, empty] at leads
    · rintro ⟨started, underway⟩
      exact absurd underway.earlier (Nat.not_lt_zero started)
  | succ time ih =>
    simp only [underway_succ_iff, exists_and_right, exists_or, exists_eq, true_and]
    cases found : actions[time]? with
    | none =>
      rw [trajectory_succ_of_none found, ih]
      simp [not_starts_of_none found, not_stops_of_none found]
    | some action =>
      rw [trajectory_succ found, starts_iff found, stops_iff found, ← ih]
      exact ((trajectory_consistent actions time).turn action).leads_iff call key

theorem Underway.leads (underway : Underway actions started call key time) :
    (trajectory actions time).Leads call key :=
  leads_iff_underway.mpr ⟨started, underway⟩

/-- A computation is underway at every time between its start and a time at which it is. -/
theorem Underway.restrict (underway : Underway actions started call key time) {moment : Nat}
    (since : started < moment) (before : moment ≤ time) :
    Underway actions started call key moment :=
  ⟨underway.starts, underway.key, since,
    fun earlier later bound => underway.runs earlier later (by omega)⟩

/-- Nobody leads a key at the time when a computation of it starts. -/
theorem Starts.vacant (starts : Starts actions time call)
    (known : (trajectory actions time).key? call = some key) (leader : Nat) :
    ¬ (trajectory actions time).Leads leader key := by
  obtain ⟨outcome, found, started⟩ := starts
  obtain ⟨action, -, turn, -⟩ := turn_of_outcomeAt? found
  obtain ⟨key', known', vacant⟩ :=
    turn.vacant_of_started (trajectory_consistent actions time) started
  obtain rfl : key' = key := by simpa using known'.symm.trans known
  exact vacant leader

/-- At most one computation of a key is underway. -/
theorem Underway.unique {first second started' : Nat}
    (underway : Underway actions started first key time)
    (other : Underway actions started' second key time) : first = second ∧ started = started' := by
  have before := trajectory_consistent actions time
  have same := before.single key first second underway.leads other.leads
  subst same
  refine ⟨rfl, ?_⟩
  -- The later of two starts would meet a leader.
  rcases Nat.lt_trichotomy started started' with earlier | equal | later
  · have leads := (underway.restrict earlier other.earlier.le).leads
    exact (other.starts.vacant other.key _ leads).elim
  · exact equal
  · have leads := (other.restrict later underway.earlier.le).leads
    exact (underway.starts.vacant underway.key _ leads).elim

/-! ## Living -/

namespace Lives

theorem restrict (lives : Lives actions created call key time) {moment : Nat}
    (since : created < moment) (before : moment ≤ time) : Lives actions created call key moment :=
  ⟨lives.creates, since, fun earlier later bound => lives.live earlier later (by omega)⟩

theorem extend (lives : Lives actions created call key time)
    (live : call ∈ (trajectory actions (time + 1)).calls) :
    Lives actions created call key (time + 1) := by
  refine ⟨lives.creates, by have := lives.earlier; omega, ?_⟩
  intro moment since before
  rcases Nat.lt_or_eq_of_le before with earlier | rfl
  · exact lives.live moment since (by omega)
  · exact live

private theorem getElem?_ne_none (lives : Lives actions created call key time) {moment : Nat}
    (since : created < moment) (before : moment ≤ time) :
    (trajectory actions moment).calls[call]? ≠ none := by
  have live := lives.live moment since before
  rw [Std.ExtTreeMap.mem_iff_isSome_getElem?] at live
  intro missing
  simp [missing] at live

/-- A call has the key that it was created for. -/
theorem key?_eq (lives : Lives actions created call key time) :
    (trajectory actions time).key? call = some key := by
  obtain ⟨creates, earlier, live⟩ := lives
  induction time, earlier using Nat.le_induction with
  | base =>
    rw [trajectory_succ creates.1]
    simp [step, key?, getElem?_enter _ _ _ _ creates.2]
  | succ time since ih =>
    have known := ih fun moment later bound => live moment later (by omega)
    cases found : actions[time]? with
    | none => rwa [trajectory_succ_of_none found]
    | some action =>
      have stays := live (time + 1) (by omega) (by omega)
      have turn := (trajectory_consistent actions time).turn action
      rw [Std.ExtTreeMap.mem_iff_isSome_getElem?] at stays
      rw [trajectory_succ found] at stays ⊢
      rcases turn.key?_stays known with gone | kept
      · simp [gone] at stays
      · exact kept

/-- The computation of a call does not stop before the call is gone. -/
theorem not_stops (lives : Lives actions created call key time) {moment : Nat}
    (since : created ≤ moment) (before : moment < time) : ¬ Stops actions moment call := by
  intro stops
  exact lives.getElem?_ne_none (by omega) before stops.gone

/-- A call that leads started its computation in its own life. -/
theorem started_after (lives : Lives actions created call key time) {key' : String}
    (underway : Underway actions started call key' time) : created < started := by
  by_contra late
  have missing : (trajectory actions created).calls[call]? = none :=
    getElem?_eq_none lives.creates.2
  rcases Nat.lt_or_eq_of_le (Nat.le_of_not_lt late) with before | rfl
  · have leads := (underway.restrict before lives.earlier.le).leads
    simpa using leads.symm.trans missing
  · have known := underway.key
    simp [key?, missing] at known

end Lives

/-- The live calls are those that were created at some time and are not over. -/
theorem mem_calls_iff :
    call ∈ (trajectory actions time).calls ↔
      ∃ created key, Lives actions created call key time := by
  refine ⟨fun live => ?_, fun ⟨created, key, lives⟩ => lives.live time lives.earlier le_rfl⟩
  induction time with
  | zero => exact absurd live Std.ExtTreeMap.not_mem_empty
  | succ time ih =>
    by_cases before : call ∈ (trajectory actions time).calls
    · obtain ⟨created, key, lives⟩ := ih before
      exact ⟨created, key, lives.extend live⟩
    · cases found : actions[time]? with
      | none =>
        rw [trajectory_succ_of_none found] at live
        exact absurd live before
      | some action =>
        have turn := (trajectory_consistent actions time).turn action
        have present : ((trajectory actions time).step action).flight.calls[call]? ≠ none := by
          rwa [← trajectory_succ found, ← Option.isSome_iff_ne_none,
            ← Std.ExtTreeMap.mem_iff_isSome_getElem?]
        obtain ⟨key, rfl, -⟩ := turn.created (getElem?_eq_none before) present
        refine ⟨time, key, ⟨found, before⟩, Nat.lt_succ_self time, ?_⟩
        intro moment since bound
        obtain rfl : moment = time + 1 := by omega
        exact live

end PeerCache.Flight
