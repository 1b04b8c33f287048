import PeerCache.Proofs.Flight.SingleFlight

/-! # Calls that wait

Once a call waits, its mailbox belongs for good to the computation in whose record it was left: the
value comes when that computation returns, and whatever happens to the record or to later leaders of
the key before the call is polled again does not matter. The induction is over the time a call has
waited, and follows the mail in its mailbox through the three stages of the computation: underway,
returned and cancelled.
-/

namespace PeerCache.Flight

variable {α : Type}

/-- A computation of a run, by its call and the times of its start and its end. -/
structure Computation where
  call : Nat
  started : Nat
  finished : Nat

section History

variable (actions : List (Action α))

/-- The computation of this key ran from its start to its end, where it returned this value. -/
structure Computes (computation : Computation) (key : String) (value : α) : Prop where
  starts : Starts actions computation.started computation.call
  key : (trajectory actions computation.started).key? computation.call = some key
  ordered : computation.started ≤ computation.finished
  runs : ∀ moment, computation.started ≤ moment → moment < computation.finished →
    ¬ Stops actions moment computation.call
  finishes : Finishes actions computation.finished computation.call value

/-- A call is polled and leaves a new mailbox in the record of its key. -/
structure Registers (time call : Nat) (key : String) (mailbox : Nat) : Prop where
  polls : Polls actions time call
  unused : mailbox = (trajectory actions time).nextMailbox
  waits : (trajectory actions (time + 1)).Waits call key mailbox
  listed : (trajectory actions (time + 1)).Listed key mailbox

/-- A call registered at some time and has waited at its mailbox ever since. -/
structure Awaits (registered call : Nat) (key : String) (mailbox time : Nat) : Prop where
  registers : Registers actions registered call key mailbox
  earlier : registered < time
  waits : ∀ moment, registered < moment → moment ≤ time →
    (trajectory actions moment).Waits call key mailbox

end History

variable {actions : List (Action α)} {time started created call registered mailbox : Nat}
  {key : String} {computation : Computation} {value : α}

/-! ## Computations -/

theorem Computes.underway (computes : Computes actions computation key value) {moment : Nat}
    (since : computation.started < moment) (before : moment ≤ computation.finished) :
    Underway actions computation.started computation.call key moment :=
  ⟨computes.starts, computes.key, since,
    fun earlier later bound => computes.runs earlier later (by omega)⟩

/-- A start and a key determine a computation that returned. -/
theorem Computes.unique (computes : Computes actions computation key value) {key' : String}
    {other : Computation} {value' : α} (again : Computes actions other key' value')
    (same_call : other.call = computation.call) (same_start : other.started = computation.started) :
    other = computation := by
  obtain ⟨number, start, finished⟩ := computation
  obtain ⟨number', start', finished'⟩ := other
  simp only at same_call same_start
  subst same_call same_start
  -- The earlier of two ends would have stopped the computation.
  rcases Nat.lt_trichotomy finished finished' with earlier | equal | later
  · have ends := computes.ordered
    exact (again.runs finished ends earlier (.inr ⟨_, computes.finishes⟩)).elim
  · rw [equal]
  · have ends := again.ordered
    exact (computes.runs finished' ends later (.inr ⟨_, again.finishes⟩)).elim

private theorem Finishes.unique {value' : α} {other : Nat}
    (finishes : Finishes actions time call value)
    (again : Finishes actions time other value') : call = other ∧ value = value' := by
  obtain ⟨outcome, found, finished⟩ := finishes
  obtain ⟨outcome', found', finished'⟩ := again
  obtain rfl : outcome = outcome' := by simpa using found.symm.trans found'
  obtain ⟨action, -, turn, -⟩ := turn_of_outcomeAt? found
  obtain ⟨taken, answer⟩ := turn.answer_of_finished finished
  obtain ⟨taken', answer'⟩ := turn.answer_of_finished finished'
  have calls := taken.symm.trans taken'
  simp only [Action.poll.injEq] at calls
  exact ⟨calls.1, by simpa using answer.symm.trans answer'⟩

private theorem Finishes.not_dropped (finishes : Finishes actions time call value) {other : Nat} :
    actions[time]? ≠ some (.drop other) := by
  intro dropped
  obtain ⟨outcome, found, finished⟩ := finishes
  obtain ⟨action, taken, turn, -⟩ := turn_of_outcomeAt? found
  obtain ⟨rfl, -⟩ := turn.answer_of_finished finished
  simpa using taken.symm.trans dropped

/-! ## Waiting -/

/-- What a waiting call finds in its mailbox, told from the history of the computation that it
registered with. -/
inductive Delivery (actions : List (Action α)) (leader started : Nat) (key : String)
    (registered mailbox time : Nat) : Prop
  | underway (runs : Underway actions started leader key time)
      (mail : (trajectory actions time).mailboxes[mailbox]? = some .awaited)
  | delivered (finished : Nat) (value : α) (after : registered < finished)
      (before : finished < time) (computes : Computes actions ⟨leader, started, finished⟩ key value)
      (mail : (trajectory actions time).mailboxes[mailbox]? = some (.delivered value))
  | closed (dropped : Nat) (before : dropped < time)
      (runs : Underway actions started leader key dropped)
      (drops : actions[dropped]? = some (.drop leader))
      (mail : (trajectory actions time).mailboxes[mailbox]? = some .closed)

namespace Delivery

variable {leader : Nat}

/-- A delivery lasts while the mailbox and the computation do. -/
theorem extend (delivery : Delivery actions leader started key registered mailbox time)
    (same : (trajectory actions (time + 1)).mailboxes[mailbox]? =
      (trajectory actions time).mailboxes[mailbox]?)
    (runs : (trajectory actions time).mailboxes[mailbox]? = some .awaited →
      Underway actions started leader key time → ¬ Stops actions time leader) :
    Delivery actions leader started key registered mailbox (time + 1) := by
  cases delivery with
  | underway underway mail =>
    have next := underway_succ_iff.mpr ⟨.inl underway, runs mail underway⟩
    exact .underway next (same.trans mail)
  | delivered finished value after before computes mail =>
    exact .delivered finished value after (by omega) computes (same.trans mail)
  | closed dropped before underway drops mail =>
    exact .closed dropped (by omega) underway drops (same.trans mail)

private theorem underway_of_empty
    (delivery : Delivery actions leader started key registered mailbox time)
    (empty : (trajectory actions time).mailboxes[mailbox]? = some .awaited) :
    Underway actions started leader key time := by
  cases delivery with
  | underway underway mail => exact underway
  | delivered finished value after before computes mail => simp [mail] at empty
  | closed dropped before underway drops mail => simp [mail] at empty

end Delivery

theorem Awaits.extend (awaits : Awaits actions registered call key mailbox time)
    (waits : (trajectory actions (time + 1)).Waits call key mailbox) :
    Awaits actions registered call key mailbox (time + 1) := by
  refine ⟨awaits.registers, by have := awaits.earlier; omega, ?_⟩
  intro moment after bound
  rcases Nat.lt_succ_iff_lt_or_eq.mp (Nat.lt_succ_of_le bound) with before | rfl
  · exact awaits.waits moment after (by omega)
  · exact waits

/-- What is to be shown of a call that waits: when it registered, and with which computation. -/
def Explained (actions : List (Action α)) (call : Nat) (key : String) (mailbox time : Nat) : Prop :=
  ∃ registered leader started, Awaits actions registered call key mailbox time ∧
    Underway actions started leader key registered ∧
    Delivery actions leader started key registered mailbox time

/-- A call that has just registered did so with the computation that is underway. -/
private theorem Registers.explained (registers : Registers actions time call key mailbox)
    {outcome : Outcome α} (found : outcomeAt? actions time = some outcome)
    (quiet : outcome.events = []) :
    Explained actions call key mailbox (time + 1) := by
  have after := trajectory_consistent actions (time + 1)
  have empty := (after.awaited _ _ _ registers.waits).mpr registers.listed
  obtain ⟨started, leader, underway⟩ := mem_records_iff.mp registers.listed.mem_records
  refine ⟨time, leader, started, ⟨registers, by omega, ?_⟩, ?_, .underway underway empty⟩
  · intro moment later bound
    obtain rfl : moment = time + 1 := by omega
    exact registers.waits
  · rcases (underway_succ_iff.mp underway).1 with earlier | ⟨rfl, ⟨outcome', found', starts⟩, -⟩
    · exact earlier
    · obtain rfl : outcome = outcome' := by simpa using found.symm.trans found'
      simp [quiet] at starts

/-- An action on another call leaves a waiting call explained. -/
private theorem Explained.elsewhere (explained : Explained actions call key mailbox time)
    {action : Action α} (taken : actions[time]? = some action) (other : action.subject ≠ call) :
    Explained actions call key mailbox (time + 1) := by
  obtain ⟨registered, leader, started, awaits, underway, delivery⟩ := explained
  have before := trajectory_consistent actions time
  have turn := before.turn action
  have waits := awaits.waits time awaits.earlier le_rfl
  have next : (trajectory actions (time + 1)).Waits call key mailbox := by
    rw [Waits, trajectory_succ taken, turn.getElem?_of_ne other]
    exact waits
  refine ⟨registered, leader, started, awaits.extend next, underway, ?_⟩
  rcases turn.mail_of_waiting before waits other with same | ⟨empty, leader', leads, change⟩
  · rw [← trajectory_succ taken] at same
    refine delivery.extend same ?_
    intro empty runs stops
    -- A mailbox that is still empty is listed in a record, which would be gone.
    have after := trajectory_consistent actions (time + 1)
    obtain ⟨waiters, recorded, -⟩ := (after.awaited _ _ _ next).mp (same.trans empty)
    rw [runs.record_gone stops] at recorded
    cases recorded
  · have runs := delivery.underway_of_empty empty
    obtain rfl := before.single _ _ _ runs.leads leads
    rw [← trajectory_succ taken] at change
    rcases change with ⟨value, finished, mail⟩ | ⟨rfl, mail⟩
    · have computes : Computes actions ⟨leader, started, time⟩ key value :=
        ⟨runs.starts, runs.key, runs.earlier.le, runs.runs, (finishes_iff taken).mpr finished⟩
      exact .delivered time value awaits.earlier (by omega) computes mail
    · exact .closed time (by omega) runs taken mail

/-- Every call that waits registered with a computation, and its mailbox tells what has become of
that. -/
theorem explained_of_waits (actions : List (Action α)) (time : Nat) :
    ∀ call key mailbox, (trajectory actions time).Waits call key mailbox →
      Explained actions call key mailbox time := by
  induction time with
  | zero =>
    intro call key mailbox waits
    simp [Waits, trajectory_zero, empty] at waits
  | succ time ih =>
    intro call key mailbox waits
    cases taken : actions[time]? with
    | none =>
      rw [trajectory_succ_of_none taken] at waits
      obtain ⟨registered, leader, started, awaits, underway, delivery⟩ := ih call key mailbox waits
      have same := trajectory_succ_of_none taken
      refine ⟨registered, leader, started, awaits.extend (by rwa [same]), underway, ?_⟩
      exact delivery.extend (by rw [same]) fun _ _ => not_stops_of_none taken
    | some action =>
      have before := trajectory_consistent actions time
      have turn := before.turn action
      by_cases own : action.subject = call
      · subst own
        have next := trajectory_succ taken
        rw [next] at waits
        rcases turn.waits_of_polled waits with same | ⟨unused, quiet, -, ⟨ready, polled⟩, -, listed⟩
        · rw [same] at waits next
          obtain ⟨registered, leader, started, awaits, underway, delivery⟩ := ih _ _ _ waits
          refine ⟨registered, leader, started, awaits.extend (by rwa [next]), underway, ?_⟩
          refine delivery.extend (by rw [next]) ?_
          intro _ runs stops
          -- The subject of the action waits, so it is not the leader that stops.
          have subject := turn.subject_of_ends ((stops_iff taken).mp stops)
          rw [subject] at waits
          exact runs.leads.not_waits waits
        · rw [← next] at waits listed
          have registers : Registers actions time _ key mailbox :=
            ⟨⟨ready, taken.trans (congrArg some polled)⟩, unused, waits, listed⟩
          exact registers.explained (outcomeAt?_of_found taken) quiet
      · have waited : (trajectory actions time).Waits call key mailbox := by
          rw [Waits, ← turn.getElem?_of_ne own, ← trajectory_succ taken]
          exact waits
        exact (ih call key mailbox waited).elsewhere taken own

/-! ## Serving those that wait -/

theorem Returns.turn (returns : Returns actions time call value) :
    ∃ ready outcome, outcomeAt? actions time = some outcome ∧ outcome.answer = .returned value ∧
      (trajectory actions time).Turn (.poll call ready) outcome := by
  obtain ⟨⟨ready, polled⟩, outcome, found, answer⟩ := returns
  obtain ⟨action, taken, turn, -⟩ := turn_of_outcomeAt? found
  obtain rfl : action = .poll call ready := by simpa using taken.symm.trans polled
  exact ⟨ready, outcome, found, answer, turn⟩

namespace Awaits

/-- A mailbox is handed out once. -/
theorem registered_eq (awaits : Awaits actions registered call key mailbox time)
    {registered' : Nat} {key' : String}
    (again : Awaits actions registered' call key' mailbox time) : registered = registered' := by
  have handed_out : ∀ {first second : Nat} {one two : String},
      Awaits actions first call one mailbox time → Awaits actions second call two mailbox time →
      ¬ first < second := by
    intro first second one two awaits again earlier
    have consistent := trajectory_consistent actions second
    have used := consistent.held _ _ _ (awaits.waits second earlier again.earlier.le)
    have bound := consistent.numbered mailbox used
    have unused := again.registers.unused
    omega
  have := handed_out awaits again
  have := handed_out again awaits
  omega

theorem registered_after (awaits : Awaits actions registered call key mailbox time)
    {key' : String} (lives : Lives actions created call key' time) : created < registered := by
  by_contra late
  rcases Nat.lt_or_eq_of_le (Nat.le_of_not_lt late) with before | rfl
  · have waits := awaits.waits created before lives.earlier.le
    simpa using waits.symm.trans (getElem?_eq_none lives.creates.2)
  · obtain ⟨ready, polled⟩ := awaits.registers.polls
    simpa using polled.symm.trans lives.creates.1

/-- A call that registered with a computation which returned finds nothing before that, and the
value afterwards. -/
theorem mail_of_computes (awaits : Awaits actions registered call key mailbox time)
    (computes : Computes actions computation key value) (since : computation.started < registered)
    (unfinished : registered < computation.finished) :
    (time ≤ computation.finished ∧
        (trajectory actions time).mailboxes[mailbox]? = some .awaited) ∨
      (computation.finished < time ∧
        (trajectory actions time).mailboxes[mailbox]? = some (.delivered value)) := by
  have waits := awaits.waits time awaits.earlier le_rfl
  obtain ⟨registered', leader, started, again, underway, delivery⟩ :=
    explained_of_waits actions time call key mailbox waits
  obtain rfl := awaits.registered_eq again
  obtain ⟨rfl, rfl⟩ := underway.unique (computes.underway since unfinished.le)
  have stops : Stops actions computation.finished computation.call := .inr ⟨_, computes.finishes⟩
  cases delivery with
  | underway runs mail =>
    left
    refine ⟨?_, mail⟩
    by_contra later
    exact runs.runs computation.finished computes.ordered (by omega) stops
  | delivered finished value' after before again mail =>
    right
    have same := computes.unique again rfl rfl
    obtain rfl : finished = computation.finished := by rw [← same]
    obtain ⟨-, rfl⟩ := computes.finishes.unique again.finishes
    exact ⟨before, mail⟩
  | closed dropped before runs drops mail =>
    have ordered := runs.earlier
    rcases Nat.lt_trichotomy dropped computation.finished with earlier | equal | later
    · exact (computes.runs dropped ordered.le earlier (.inl drops)).elim
    · rw [equal] at drops
      exact (computes.finishes.not_dropped drops).elim
    · exact (runs.runs computation.finished computes.ordered later stops).elim

/-- A call that registered with a computation which returns keeps its mailbox for life. -/
theorem persists (awaits : Awaits actions registered call key mailbox time)
    (computes : Computes actions computation key value) (since : computation.started < registered)
    (unfinished : registered < computation.finished)
    (live : call ∈ (trajectory actions (time + 1)).calls) :
    Awaits actions registered call key mailbox (time + 1) := by
  apply awaits.extend
  have waits := awaits.waits time awaits.earlier le_rfl
  cases taken : actions[time]? with
  | none => rwa [trajectory_succ_of_none taken]
  | some action =>
    rw [trajectory_succ taken] at live ⊢
    refine ((trajectory_consistent actions time).turn action).waits_on waits ?_ ?_
    · rcases awaits.mail_of_computes computes since unfinished with ⟨-, mail⟩ | ⟨-, mail⟩
      · simp [mail]
      · simp [mail]
    · rw [Std.ExtTreeMap.mem_iff_isSome_getElem?] at live
      exact Option.isSome_iff_ne_none.mp live

end Awaits

/-- A call that registered with a computation which returns waits for it as long as it lives. -/
theorem Registers.awaits (registers : Registers actions registered call key mailbox)
    (computes : Computes actions computation key value) (since : computation.started < registered)
    (unfinished : registered < computation.finished) (later : registered < time)
    (live : ∀ moment, registered < moment → moment ≤ time →
      call ∈ (trajectory actions moment).calls) :
    Awaits actions registered call key mailbox time := by
  induction time, later using Nat.le_induction with
  | base =>
    refine ⟨registers, by omega, ?_⟩
    intro moment after bound
    obtain rfl : moment = registered + 1 := by omega
    exact registers.waits
  | succ time after ih =>
    have awaits := ih fun moment since bound => live moment since (by omega)
    exact awaits.persists computes since unfinished (live (time + 1) (by omega) le_rfl)

end PeerCache.Flight
