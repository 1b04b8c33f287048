import PeerCache.Proofs.Flight.Delivery
import PeerCache.Proofs.Flight.Rounds

/-! # No waiting call is lost

A call that waits meets one of three fates. Its mailbox is in the record of a leader that computes,
it holds a value, or it is closed because that leader was cancelled. None of them is final: the call
stays as it is, returns the value, or starts over within the same poll, and a poll never leaves it
without a leader to wait for. What keeps a waiting call from being forgotten is that a mailbox is
empty exactly while it is listed, and listed only while somebody leads.
-/

namespace PeerCache.Flight

variable {α : Type}

/-- What has become of a call that waits. -/
inductive Fate (α : Type) where
  /-- A leader is going to write to its mailbox. -/
  | awaiting
  /-- There is a value in its mailbox. -/
  | served (value : α)
  /-- Its leader was cancelled. -/
  | stranded
deriving DecidableEq, Repr

/-- The poll made the call the leader of its key: its computation started, and is underway unless it
has returned in the same poll. -/
def TakesOver (call : Nat) (key : String) (ready : Option α) (outcome : Outcome α) : Prop :=
  .started call ∈ outcome.events ∧ match ready with
    | none => outcome.answer = .pending ∧ outcome.flight.Leads call key
    | some value => outcome.answer = .returned value ∧ .finished call value ∈ outcome.events ∧
        outcome.flight.calls[call]? = none

section Definitions

variable (actions : List (Action α))

/-- The call that waits for a key at a mailbox has met this fate. -/
def Meets (call : Nat) (key : String) (mailbox time : Nat) : Fate α → Prop
  | .awaiting => (trajectory actions time).Listed key mailbox ∧
      ∃ leader, (trajectory actions time).Leads leader key
  | .served value => (trajectory actions time).mailboxes[mailbox]? = some (.delivered value)
  | .stranded => (trajectory actions time).mailboxes[mailbox]? = some .closed ∧
      ∃ registered started leader dropped, Awaits actions registered call key mailbox time ∧
        Underway actions started leader key registered ∧ registered < dropped ∧ dropped < time ∧
        Underway actions started leader key dropped ∧ actions[dropped]? = some (.drop leader)

/-- What it means for a run that no waiting call is lost. A poll may come at any time, so what it
does is said of every flight of the run. -/
structure NoneLost : Prop where
  /-- A waiting call has met one fate. -/
  fated : ∀ time call key mailbox, (trajectory actions time).Waits call key mailbox →
    ∃! fate, Meets actions call key mailbox time fate
  /-- A call whose leader computes goes on waiting. -/
  awaiting : ∀ time call key mailbox ready, (trajectory actions time).Waits call key mailbox →
    Meets actions call key mailbox time .awaiting →
    (trajectory actions time).poll call ready = ⟨trajectory actions time, .pending, []⟩
  /-- A call that was served returns the value, and is over. -/
  served : ∀ time call key mailbox ready value, (trajectory actions time).Waits call key mailbox →
    Meets actions call key mailbox time (.served value) →
    (trajectory actions time).poll call ready =
      ⟨(trajectory actions time).leave call mailbox, .returned value, []⟩
  /-- A call whose leader was cancelled starts over in the same poll. It leaves a mailbox with the
  leader that its key has by now, or takes over if there is none. -/
  stranded : ∀ time call key mailbox ready, (trajectory actions time).Waits call key mailbox →
    Meets actions call key mailbox time .stranded →
    (∃ leader next, (trajectory actions time).Leads leader key ∧
      (trajectory actions time).poll call ready = ⟨next, .pending, []⟩ ∧
      next.Leads leader key ∧ next.Waits call key (trajectory actions time).nextMailbox ∧
      next.Listed key (trajectory actions time).nextMailbox) ∨
    (∀ leader, ¬ (trajectory actions time).Leads leader key) ∧
      TakesOver call key ready ((trajectory actions time).poll call ready)
  /-- No poll goes through the loop of its call more than twice. -/
  rounds : ∀ time call ready limit, 2 ≤ limit →
    pollWithin call ready limit (trajectory actions time) =
      some ((trajectory actions time).poll call ready)
  /-- A poll goes through it twice if the leader of the call was cancelled, and only then. -/
  again : ∀ time call ready, pollWithin call ready 1 (trajectory actions time) = none ↔
    ∃ key mailbox, (trajectory actions time).Waits call key mailbox ∧
      Meets actions call key mailbox time .stranded
  /-- While nobody leads a key, every poll of a live call on it ends the call with a value or makes
  it the leader. -/
  vacant : ∀ time call key ready, (trajectory actions time).key? call = some key →
    (∀ leader, ¬ (trajectory actions time).Leads leader key) →
    (∃ value, ((trajectory actions time).poll call ready).answer = .returned value ∧
      ((trajectory actions time).poll call ready).flight.calls[call]? = none) ∨
    (((trajectory actions time).poll call ready).answer = .pending ∧
      ((trajectory actions time).poll call ready).flight.Leads call key)

end Definitions

variable {actions : List (Action α)} {time call mailbox : Nat} {key : String}

/-! ## Fates -/

/-- An empty mailbox is listed in the record of a leader. -/
theorem Waits.meets_awaiting (waits : (trajectory actions time).Waits call key mailbox)
    (empty : (trajectory actions time).mailboxes[mailbox]? = some .awaited) :
    Meets actions call key mailbox time .awaiting := by
  have consistent := trajectory_consistent actions time
  have listed := (consistent.awaited _ _ _ waits).mp empty
  exact ⟨listed, (consistent.recorded key).mp listed.mem_records⟩

/-- A closed mailbox was in the record of a leader that was cancelled. -/
theorem Waits.meets_stranded (waits : (trajectory actions time).Waits call key mailbox)
    (closed : (trajectory actions time).mailboxes[mailbox]? = some .closed) :
    Meets actions call key mailbox time .stranded := by
  obtain ⟨registered, leader, started, awaits, underway, delivery⟩ :=
    explained_of_waits actions time call key mailbox waits
  cases delivery with
  | underway runs empty => simp [closed] at empty
  | delivered finished value after before computes mail => simp [closed] at mail
  | closed dropped before runs drops mail =>
    refine ⟨mail, registered, started, leader, dropped, awaits, underway, ?_, before, runs, drops⟩
    by_contra early
    -- The leader computed when the call registered, so it was cancelled later.
    rcases Nat.lt_or_eq_of_le (Nat.le_of_not_lt early) with sooner | rfl
    · exact underway.runs dropped runs.earlier.le sooner (.inl drops)
    · obtain ⟨ready, polled⟩ := awaits.registers.polls
      simp [polled] at drops

/-- A fate shows in the mailbox. -/
theorem Meets.mail {fate : Fate α} (meets : Meets actions call key mailbox time fate)
    (waits : (trajectory actions time).Waits call key mailbox) :
    (trajectory actions time).mailboxes[mailbox]? = some (match fate with
      | .awaiting => .awaited
      | .served value => .delivered value
      | .stranded => .closed) := by
  cases fate with
  | awaiting => exact ((trajectory_consistent actions time).awaited _ _ _ waits).mpr meets.1
  | served value => exact meets
  | stranded => exact meets.1

/-- Fates that show in the same mailbox are the same. -/
theorem Meets.unique {fate other : Fate α} (meets : Meets actions call key mailbox time fate)
    (again : Meets actions call key mailbox time other)
    (waits : (trajectory actions time).Waits call key mailbox) : other = fate := by
  have same := (again.mail waits).symm.trans (meets.mail waits)
  cases fate <;> cases other <;> simp_all

private theorem Waits.exists_meets (waits : (trajectory actions time).Waits call key mailbox) :
    ∃ fate, Meets actions call key mailbox time fate := by
  have used := (trajectory_consistent actions time).held _ _ _ waits
  rw [Std.ExtTreeMap.mem_iff_isSome_getElem?] at used
  obtain ⟨mail, found⟩ := Option.isSome_iff_exists.mp used
  cases mail with
  | awaited => exact ⟨.awaiting, waits.meets_awaiting found⟩
  | delivered value => exact ⟨.served value, found⟩
  | closed => exact ⟨.stranded, waits.meets_stranded found⟩

/-! ## Starting over -/

section Polls

variable {flight base : Flight α} {leader : Nat} {ready : Option α}

/-- A call returns the value that is in its mailbox. -/
theorem poll_of_delivered {value : α} (waits : flight.Waits call key mailbox)
    (mail : flight.mailboxes[mailbox]? = some (.delivered value)) :
    flight.poll call ready = ⟨flight.leave call mailbox, .returned value, []⟩ := by
  unfold poll attend
  simp only [show flight.calls[call]? = _ from waits, mail]
  rfl

/-- A call that joins where nobody leads takes over. -/
theorem Seeks.takesOver (seeks : flight.Seeks call key base) (consistent : flight.Consistent)
    (vacant : ∀ leader, ¬ flight.Leads leader key)
    (attends : flight.attend call = base.join call key) :
    TakesOver call key ready (flight.poll call ready) := by
  have absent : base.records[key]? = none := by
    rw [seeks.records_eq]
    refine Std.ExtTreeMap.getElem?_eq_none ?_
    rw [consistent.recorded]
    exact not_exists.mpr vacant
  have leads : (base.lead call key).Leads call key := by simp [leads_lead]
  unfold poll
  rw [attends, join_of_absent absent]
  cases ready with
  | none => exact ⟨by simp [compute], rfl, leads⟩
  | some value =>
    refine ⟨by simp [compute], rfl, by simp [compute], ?_⟩
    simp [compute, conclude_of_leads leads, getElem?_retire]

/-- A call that joins where somebody leads leaves a mailbox there. -/
theorem Seeks.queues (seeks : flight.Seeks call key base) (consistent : flight.Consistent)
    (leads : flight.Leads leader key)
    (attends : flight.attend call = base.join call key) :
    ∃ next, flight.poll call ready = ⟨next, .pending, []⟩ ∧ next.Leads leader key ∧
      next.Waits call key flight.nextMailbox ∧ next.Listed key flight.nextMailbox := by
  have present := (consistent.recorded key).mpr ⟨leader, leads⟩
  rw [← seeks.records_eq, Std.ExtTreeMap.mem_iff_isSome_getElem?] at present
  obtain ⟨waiters, recorded⟩ := Option.isSome_iff_exists.mp present
  have other : call ≠ leader := by
    rintro rfl
    exact seeks.not_leads leads
  refine ⟨base.queue call key waiters, ?_, ?_, ?_, ?_⟩
  · unfold poll
    rw [attends, join_of_recorded recorded]
  · rw [leads_queue, Leads, seeks.getElem?_of_ne other]
    exact ⟨other, leads⟩
  · rw [waits_queue, if_pos rfl, seeks.nextMailbox_eq]
    exact ⟨rfl, rfl⟩
  · rw [listed_queue _ _ _ recorded, seeks.nextMailbox_eq]
    exact .inr ⟨rfl, rfl⟩

private theorem attend_of_closed (waits : flight.Waits call key mailbox)
    (closed : flight.mailboxes[mailbox]? = some .closed) :
    flight.attend call = (flight.leave call mailbox).join call key := by
  unfold attend
  simp only [show flight.calls[call]? = _ from waits, closed]
  exact join_leave flight call mailbox key

/-- A call that took over has returned, or leads. -/
theorem TakesOver.ends {outcome : Outcome α} (takes : TakesOver call key ready outcome) :
    (∃ value, outcome.answer = .returned value ∧ outcome.flight.calls[call]? = none) ∨
      (outcome.answer = .pending ∧ outcome.flight.Leads call key) := by
  obtain ⟨-, rest⟩ := takes
  cases ready with
  | none => exact .inr rest
  | some value => exact .inl ⟨value, rest.1, rest.2.2⟩

/-- While nobody leads a key, a poll serves a live call on it or lets it take over. -/
theorem Consistent.poll_vacant (consistent : flight.Consistent) (ready : Option α)
    (known : flight.key? call = some key) (vacant : ∀ leader, ¬ flight.Leads leader key) :
    (∃ value mailbox, flight.poll call ready = ⟨flight.leave call mailbox, .returned value, []⟩) ∨
      TakesOver call key ready (flight.poll call ready) := by
  obtain ⟨⟨key', stance⟩, found, rfl⟩ := Option.map_eq_some_iff.mp known
  cases stance with
  | fresh =>
    refine .inr ((Seeks.fresh found).takesOver consistent vacant ?_)
    unfold attend
    rw [found]
  | leading => exact absurd found (vacant call)
  | waiting mailbox =>
    have waits : flight.Waits call key' mailbox := found
    have used := consistent.held _ _ _ waits
    rw [Std.ExtTreeMap.mem_iff_isSome_getElem?] at used
    obtain ⟨mail, held⟩ := Option.isSome_iff_exists.mp used
    cases mail with
    | awaited =>
      have listed := (consistent.awaited _ _ _ waits).mp held
      obtain ⟨leader, leads⟩ := (consistent.recorded _).mp listed.mem_records
      exact absurd leads (vacant leader)
    | delivered value => exact .inl ⟨value, mailbox, poll_of_delivered waits held⟩
    | closed =>
      exact .inr ((Seeks.stranded mailbox waits held).takesOver consistent vacant
        (attend_of_closed waits held))

end Polls

/-- In every run, whoever waits is served, or has somebody to wait for, or starts over. -/
theorem run_noneLost (actions : List (Action α)) : NoneLost actions where
  fated := by
    intro time call key mailbox waits
    obtain ⟨fate, meets⟩ := waits.exists_meets
    exact ⟨fate, meets, fun other again => meets.unique again waits⟩
  awaiting := by
    intro time call key mailbox ready waits meets
    have turn := (trajectory_consistent actions time).turn (.poll call ready)
    exact turn.awaited waits (meets.mail waits)
  served := by
    intro time call key mailbox ready value waits meets
    exact poll_of_delivered waits (meets.mail waits)
  stranded := by
    intro time call key mailbox ready waits meets
    have consistent := trajectory_consistent actions time
    have closed := meets.mail waits
    have seeks := Seeks.stranded mailbox waits closed
    have attends := attend_of_closed waits closed
    by_cases led : ∃ leader, (trajectory actions time).Leads leader key
    · obtain ⟨leader, leads⟩ := led
      obtain ⟨next, polled, still, waits', listed⟩ := seeks.queues consistent leads attends
      exact .inl ⟨leader, next, leads, polled, still, waits', listed⟩
    · have vacant := not_exists.mp led
      exact .inr ⟨vacant, seeks.takesOver consistent vacant attends⟩
  rounds time call ready limit enough := pollWithin_eq_poll _ call ready enough
  again := by
    intro time call ready
    constructor
    · intro unfinished
      rcases (trajectory actions time).round_eq call ready with
        ends | ⟨key, mailbox, waits, abandoned, -⟩
      · simp [pollWithin, ends] at unfinished
      · refine ⟨key, mailbox, waits, ?_⟩
        rcases abandoned with closed | missing
        · exact waits.meets_stranded closed
        · have used := (trajectory_consistent actions time).held _ _ _ waits
          simp [Std.ExtTreeMap.mem_iff_isSome_getElem?, missing] at used
    · rintro ⟨key, mailbox, waits, meets⟩
      have restarts := round_of_closed _ call mailbox key ready waits (meets.mail waits)
      simp only [pollWithin, restarts]
  vacant := by
    intro time call key ready known vacant
    rcases (trajectory_consistent actions time).poll_vacant ready known vacant with
      ⟨value, mailbox, returned⟩ | takes
    · rw [returned]
      exact .inl ⟨value, rfl, by simp [getElem?_leave]⟩
    · exact takes.ends

/-- When a leader is cancelled, the first of its waiters that is polled takes over, and the next one
waits for that. -/
example : ((empty : Flight Nat).run [.call 1 "k", .call 2 "k", .call 3 "k", .poll 1 none,
      .poll 2 none, .poll 3 none, .drop 1, .poll 3 none, .poll 2 none, .poll 3 (some 7),
      .poll 2 none]).2 =
    [(.created, []), (.created, []), (.created, []), (.pending, [.started 1]), (.pending, []),
      (.pending, []), (.dropped true, []), (.pending, [.started 3]), (.pending, []),
      (.returned 7, [.finished 3 7]), (.returned 7, [])] := by
  decide +kernel

end PeerCache.Flight
