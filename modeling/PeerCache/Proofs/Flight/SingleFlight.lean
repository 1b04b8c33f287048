import PeerCache.Proofs.Flight.Trajectory

/-! # One computation at a time

For every key, a flight lets one computation run and keeps a record for just as long. Whatever the
order in which calls are created, polled and cancelled, no record outlives its leader, none is taken
from a leader by another call, and no call computes twice or computes and then returns what another
one computed.
-/

namespace PeerCache.Flight

variable {α : Type}

/-- What it means for a run that its computations are coalesced. -/
structure SingleFlight (actions : List (Action α)) : Prop where
  /-- The live calls are those that were created and are not over. -/
  lived : ∀ time call, call ∈ (trajectory actions time).calls ↔
    ∃ created key, Lives actions created call key time
  /-- A key has at most one computation at a time. -/
  single : ∀ time key first second started started',
    Underway actions started first key time → Underway actions started' second key time →
      first = second ∧ started = started'
  /-- A key has a record exactly while it has a computation. -/
  recorded : ∀ time key, key ∈ (trajectory actions time).records ↔
    ∃ started call, Underway actions started call key time
  /-- A computation belongs to a live call on its key, which leads. -/
  live : ∀ started call key time, Underway actions started call key time →
    (trajectory actions time).Leads call key
  /-- No action starts or ends anything twice. -/
  distinct : ∀ time outcome, outcomeAt? actions time = some outcome → outcome.events.Nodup
  /-- A call starts its computation at most once in its life. -/
  once : ∀ created call key time first second, Lives actions created call key time →
    created < first → first ≤ time → Starts actions first call →
    created < second → second ≤ time → Starts actions second call → first = second
  /-- A call that returns a value which it did not compute never started to compute. -/
  borrowed : ∀ created call key time value, Lives actions created call key time →
    Returns actions time call value → ¬ Finishes actions time call value →
    ∀ moment, created < moment → moment ≤ time → ¬ Starts actions moment call
  /-- Without live calls there are no records. -/
  emptied : ∀ time, (∀ call, call ∉ (trajectory actions time).calls) →
    ∀ key, key ∉ (trajectory actions time).records
  /-- The record of a leader stays, and only grows, until that leader itself returns or is
  cancelled. -/
  kept : ∀ started leader key time waiters, Underway actions started leader key time →
    (trajectory actions time).records[key]? = some waiters →
    (¬ Stops actions time leader ∧ Underway actions started leader key (time + 1) ∧
      ∃ more, (trajectory actions (time + 1)).records[key]? = some (waiters ++ more)) ∨
    (Stops actions time leader ∧ (trajectory actions (time + 1)).records[key]? = none)

variable {actions : List (Action α)} {time started created call : Nat} {key : String}

theorem mem_records_iff :
    key ∈ (trajectory actions time).records ↔
      ∃ started call, Underway actions started call key time := by
  rw [(trajectory_consistent actions time).recorded]
  simp only [leads_iff_underway]
  exact exists_comm

/-- A call that has started to compute leads as long as it lives. -/
theorem Lives.underway (lives : Lives actions created call key time)
    (starts : Starts actions started call) (since : created < started) (before : started < time) :
    Underway actions started call key time :=
  ⟨starts, (lives.restrict since before.le).key?_eq, before,
    fun _ later bound => lives.not_stops (by omega) bound⟩

/-- The second start of a call would find it leading its key. -/
theorem Lives.not_starts_again (lives : Lives actions created call key time)
    (starts : Starts actions started call) (since : created < started) (before : started < time) :
    ¬ Starts actions time call := by
  intro again
  exact again.vacant lives.key?_eq call (lives.underway starts since before).leads

/-- A call starts once in its life. -/
theorem Lives.start_unique (lives : Lives actions created call key time) {first second : Nat}
    (starts : Starts actions first call) (after : created < first) (before : first ≤ time)
    (starts' : Starts actions second call) (after' : created < second) (before' : second ≤ time) :
    first = second := by
  rcases Nat.lt_trichotomy first second with earlier | equal | later
  · exact ((lives.restrict after' before').not_starts_again starts after earlier starts').elim
  · exact equal
  · exact ((lives.restrict after before).not_starts_again starts' after' later starts).elim

/-- A call whose computation is underway returns no value but that of the computation. -/
theorem Underway.finishes (underway : Underway actions started call key time) {value : α}
    (returns : Returns actions time call value) : Finishes actions time call value := by
  obtain ⟨⟨ready, polled⟩, outcome, found, answer⟩ := returns
  obtain ⟨action, taken, turn, -⟩ := turn_of_outcomeAt? found
  obtain rfl : action = .poll call ready := by simpa using taken.symm.trans polled
  rcases turn.returned answer with ⟨finished, -⟩ | ⟨-, key', mailbox, waits, -⟩
  · exact ⟨outcome, found, finished⟩
  · exact (underway.leads.not_waits waits).elim

/-- A call that starts and returns in the same poll returns the value of its computation. -/
theorem Starts.finishes (starts : Starts actions time call) {value : α}
    (returns : Returns actions time call value) : Finishes actions time call value := by
  obtain ⟨⟨ready, polled⟩, outcome, found, answer⟩ := returns
  obtain ⟨action, taken, turn, -⟩ := turn_of_outcomeAt? found
  obtain rfl : action = .poll call ready := by simpa using taken.symm.trans polled
  obtain ⟨again, same, started⟩ := starts
  obtain rfl : again = outcome := by simpa using same.symm.trans found
  rcases turn.returned answer with ⟨finished, -⟩ | ⟨none_happened, -⟩
  · exact ⟨again, found, finished⟩
  · simp [none_happened] at started

/-- A leader keeps its record until its own computation stops. -/
theorem Underway.record_kept (underway : Underway actions started call key time)
    {waiters : List Nat} (found : (trajectory actions time).records[key]? = some waiters)
    (runs : ¬ Stops actions time call) :
    ∃ more, (trajectory actions (time + 1)).records[key]? = some (waiters ++ more) := by
  cases taken : actions[time]? with
  | none => exact ⟨[], by rw [trajectory_succ_of_none taken, found, List.append_nil]⟩
  | some action =>
    have before := trajectory_consistent actions time
    rw [stops_iff taken] at runs
    rw [trajectory_succ taken]
    exact (before.turn action).record_grows before underway.leads found runs

/-- The record of a computation goes with it. -/
theorem Underway.record_gone (underway : Underway actions started call key time)
    (stops : Stops actions time call) :
    (trajectory actions (time + 1)).records[key]? = none := by
  by_contra present
  have recorded : key ∈ (trajectory actions (time + 1)).records := by
    rw [Std.ExtTreeMap.mem_iff_isSome_getElem?, Option.isSome_iff_ne_none]
    exact present
  obtain ⟨started', leader, next⟩ := mem_records_iff.mp recorded
  obtain ⟨earlier | ⟨rfl, starts, known⟩, runs⟩ := underway_succ_iff.mp next
  · obtain ⟨rfl, -⟩ := underway.unique earlier
    exact runs stops
  · exact starts.vacant known call underway.leads

/-- Every run coalesces its computations. -/
theorem run_singleFlight (actions : List (Action α)) : SingleFlight actions where
  lived time call := mem_calls_iff
  single time key first second started started' underway other := underway.unique other
  recorded time key := mem_records_iff
  live started call key time underway := underway.leads
  distinct time outcome found := by
    obtain ⟨action, -, turn, -⟩ := turn_of_outcomeAt? found
    exact turn.events_nodup
  once := by
    intro created call key time first second lives after before starts after' before' starts'
    exact lives.start_unique starts after before starts' after' before'
  borrowed := by
    intro created call key time value lives returns foreign moment since before starts
    rcases Nat.lt_or_eq_of_le before with earlier | rfl
    · exact foreign ((lives.underway starts since earlier).finishes returns)
    · exact foreign (starts.finishes returns)
  emptied := by
    intro time deserted key recorded
    obtain ⟨started, call, underway⟩ := mem_records_iff.mp recorded
    have live := underway.leads
    rw [Leads, getElem?_eq_none (deserted call)] at live
    cases live
  kept := by
    intro started leader key time waiters underway found
    by_cases stops : Stops actions time leader
    · exact .inr ⟨stops, underway.record_gone stops⟩
    · have runs := underway_succ_iff.mpr ⟨.inl underway, stops⟩
      exact .inl ⟨stops, runs, underway.record_kept found stops⟩

end PeerCache.Flight
