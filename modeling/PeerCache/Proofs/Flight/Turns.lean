import PeerCache.Proofs.Flight.Consistency

/-! # What an action does to a flight

A turn is an action together with everything it brought about: the answer, the events and the
flight after it. There are fourteen kinds of turns, and an action on a consistent flight is always
one of them. Every turn keeps the flight consistent and leaves all calls alone but its own.
-/

namespace PeerCache.Flight

variable {α : Type}

/-- A poll makes this call join its key, either for the first time or because the leader it waited
for was cancelled. The flight without the call's old mailbox is `base`. -/
inductive Seeks (flight : Flight α) (call : Nat) (key : String) : Flight α → Prop
  | fresh (fresh : flight.calls[call]? = some ⟨key, .fresh⟩) : Seeks flight call key flight
  | stranded (mailbox : Nat) (waits : flight.Waits call key mailbox)
      (closed : flight.mailboxes[mailbox]? = some .closed) :
      Seeks flight call key (flight.leave call mailbox)

/-- What a call meets when it is polled, and what becomes of the flight. -/
inductive Attends (flight : Flight α) (call : Nat) : Flight α × Attendance α → Prop
  | missing (missing : flight.calls[call]? = none) : Attends flight call (flight, .absent)
  | leads (key : String) (leads : flight.Leads call key) : Attends flight call (flight, .leading)
  | waits (key : String) (mailbox : Nat) (waits : flight.Waits call key mailbox)
      (empty : flight.mailboxes[mailbox]? = some .awaited) : Attends flight call (flight, .waiting)
  | receives (key : String) (mailbox : Nat) (value : α) (waits : flight.Waits call key mailbox)
      (mail : flight.mailboxes[mailbox]? = some (.delivered value)) :
      Attends flight call (flight.leave call mailbox, .received value)
  | starts (key : String) (base : Flight α) (seeks : flight.Seeks call key base)
      (absent : base.records[key]? = none) : Attends flight call (base.lead call key, .started)
  | queues (key : String) (base : Flight α) (waiters : List Nat)
      (seeks : flight.Seeks call key base) (recorded : base.records[key]? = some waiters) :
      Attends flight call (base.queue call key waiters, .waiting)

/-- An action, what it answered, the events on the way, and the flight after it. -/
inductive Turn (flight : Flight α) : Action α → Outcome α → Prop
  | creates (call : Nat) (key : String) (new : call ∉ flight.calls) :
      Turn flight (.call call key) ⟨flight.enter call key, .created, []⟩
  | taken (call : Nat) (key : String) (live : call ∈ flight.calls) :
      Turn flight (.call call key) ⟨flight, .created, []⟩
  | missing (call : Nat) (ready : Option α) (missing : flight.calls[call]? = none) :
      Turn flight (.poll call ready) ⟨flight, .absent, []⟩
  | waits (call : Nat) (ready : Option α) (key : String) (mailbox : Nat)
      (waits : flight.Waits call key mailbox)
      (empty : flight.mailboxes[mailbox]? = some .awaited) :
      Turn flight (.poll call ready) ⟨flight, .pending, []⟩
  | receives (call : Nat) (ready : Option α) (key : String) (mailbox : Nat) (value : α)
      (waits : flight.Waits call key mailbox)
      (mail : flight.mailboxes[mailbox]? = some (.delivered value)) :
      Turn flight (.poll call ready) ⟨flight.leave call mailbox, .returned value, []⟩
  | queues (call : Nat) (ready : Option α) (key : String) (base : Flight α) (waiters : List Nat)
      (seeks : flight.Seeks call key base) (recorded : base.records[key]? = some waiters) :
      Turn flight (.poll call ready) ⟨base.queue call key waiters, .pending, []⟩
  | continues (call : Nat) (key : String) (leads : flight.Leads call key) :
      Turn flight (.poll call none) ⟨flight, .pending, []⟩
  | finishes (call : Nat) (key : String) (value : α) (leads : flight.Leads call key) :
      Turn flight (.poll call (some value))
        ⟨flight.retire call key (.delivered value), .returned value, [.finished call value]⟩
  | starts (call : Nat) (key : String) (base : Flight α) (seeks : flight.Seeks call key base)
      (absent : base.records[key]? = none) :
      Turn flight (.poll call none) ⟨base.lead call key, .pending, [.started call]⟩
  | computes (call : Nat) (key : String) (value : α) (base : Flight α)
      (seeks : flight.Seeks call key base) (absent : base.records[key]? = none) :
      Turn flight (.poll call (some value))
        ⟨(base.lead call key).retire call key (.delivered value), .returned value,
          [.started call, .finished call value]⟩
  | unknown (call : Nat) (missing : flight.calls[call]? = none) :
      Turn flight (.drop call) ⟨flight, .dropped false, []⟩
  | forgets (call : Nat) (key : String) (fresh : flight.calls[call]? = some ⟨key, .fresh⟩) :
      Turn flight (.drop call)
        ⟨{ flight with calls := flight.calls.erase call }, .dropped true, []⟩
  | abandons (call : Nat) (key : String) (mailbox : Nat) (waits : flight.Waits call key mailbox) :
      Turn flight (.drop call) ⟨flight.leave call mailbox, .dropped true, []⟩
  | cancels (call : Nat) (key : String) (leads : flight.Leads call key) :
      Turn flight (.drop call) ⟨flight.retire call key .closed, .dropped true, []⟩

/-! ## Every action is a turn -/

theorem Consistent.attends {flight : Flight α} (consistent : flight.Consistent) (call : Nat) :
    flight.Attends call (flight.attend call) := by
  have joins : ∀ key base, flight.Seeks call key base →
      flight.Attends call (base.join call key) := by
    intro key base seeks
    cases recorded : base.records[key]? with
    | none =>
      rw [join_of_absent recorded]
      exact .starts key base seeks recorded
    | some waiters =>
      rw [join_of_recorded recorded]
      exact .queues key base waiters seeks recorded
  unfold attend
  rcases found : flight.calls[call]? with _ | ⟨key, _ | mailbox | _⟩
  · exact .missing found
  · exact joins key flight (.fresh found)
  · have used := consistent.held call key mailbox found
    rw [Std.ExtTreeMap.mem_iff_isSome_getElem?] at used
    rcases mail : flight.mailboxes[mailbox]? with _ | _ | value | _
    · simp [mail] at used
    · simpa [mail] using .waits key mailbox found mail
    · simpa [mail] using .receives key mailbox value found mail
    · simp only [mail]
      rw [join_leave]
      exact joins key _ (.stranded mailbox found mail)
  · exact .leads key found

theorem Consistent.turn {flight : Flight α} (consistent : flight.Consistent) (action : Action α) :
    flight.Turn action (flight.step action) := by
  cases action with
  | call call key =>
    by_cases live : call ∈ flight.calls
    · simpa [step, Flight.enter, live] using Turn.taken call key live
    · exact .creates call key live
  | poll call ready =>
    have attends := consistent.attends call
    simp only [step, poll]
    generalize flight.attend call = attendance at attends
    cases attends with
    | missing missing => exact .missing call ready missing
    | leads key leads =>
      cases ready with
      | none => exact .continues call key leads
      | some value =>
        simp only [compute, conclude_of_leads leads]
        exact .finishes call key value leads
    | waits key mailbox waits empty => exact .waits call ready key mailbox waits empty
    | receives key mailbox value waits mail =>
      exact .receives call ready key mailbox value waits mail
    | starts key base seeks absent =>
      cases ready with
      | none => exact .starts call key base seeks absent
      | some value =>
        have leads : (base.lead call key).Leads call key := by simp [leads_lead]
        simp only [compute, conclude_of_leads leads]
        exact .computes call key value base seeks absent
    | queues key base waiters seeks recorded =>
      exact .queues call ready key base waiters seeks recorded
  | drop call =>
    simp only [step, drop]
    rw [Std.ExtTreeMap.contains_eq_isSome_getElem?]
    rcases found : flight.calls[call]? with _ | ⟨key, _ | mailbox | _⟩
    · exact .unknown call found
    · exact .forgets call key found
    · exact .abandons call key mailbox found
    · exact .cancels call key found

/-! ## Joining -/

namespace Seeks

variable {flight base : Flight α} {call other mailbox : Nat} {key key' : String}

theorem idle (seeks : flight.Seeks call key base) : base.Idle call := by
  intro key' stance found
  cases seeks with
  | fresh fresh =>
    have same := fresh.symm.trans found
    simp at same
    exact same.2.symm
  | stranded mailbox waits closed => simp [getElem?_leave] at found

theorem consistent (seeks : flight.Seeks call key base) (before : flight.Consistent) :
    base.Consistent := by
  cases seeks with
  | fresh => exact before
  | stranded mailbox waits closed => exact before.leave waits

theorem records_eq (seeks : flight.Seeks call key base) : base.records = flight.records := by
  cases seeks <;> rfl

theorem nextMailbox_eq (seeks : flight.Seeks call key base) :
    base.nextMailbox = flight.nextMailbox := by
  cases seeks <;> rfl

theorem getElem?_of_ne (seeks : flight.Seeks call key base) (other_ne : call ≠ other) :
    base.calls[other]? = flight.calls[other]? := by
  cases seeks with
  | fresh => rfl
  | stranded => rw [getElem?_leave, if_neg other_ne]

theorem key?_eq (seeks : flight.Seeks call key base) : flight.key? call = some key := by
  unfold key?
  cases seeks with
  | fresh fresh => rw [fresh]; rfl
  | stranded mailbox waits closed => rw [show flight.calls[call]? = _ from waits]; rfl

theorem not_leads (seeks : flight.Seeks call key base) : ¬ flight.Leads call key' := by
  intro leads
  cases seeks with
  | fresh fresh => simpa using leads.symm.trans fresh
  | stranded mailbox waits closed => exact leads.not_waits waits

/-- Only a closed mailbox makes a waiting call join again. -/
theorem closed (seeks : flight.Seeks call key base) (waits : flight.Waits call key' mailbox) :
    flight.mailboxes[mailbox]? = some .closed := by
  cases seeks with
  | fresh fresh => simpa using waits.symm.trans fresh
  | stranded old again closed => rwa [← (waits.unique again).2] at closed

/-- The mailboxes of the other calls are left alone. -/
theorem mailboxes_eq (seeks : flight.Seeks call key base) (before : flight.Consistent)
    (waits : flight.Waits other key' mailbox) (other_ne : call ≠ other) :
    base.mailboxes[mailbox]? = flight.mailboxes[mailbox]? := by
  cases seeks with
  | fresh => rfl
  | stranded old stranded closed =>
    rw [mailboxes_leave, if_neg]
    rintro rfl
    exact other_ne (before.apart _ _ _ _ _ stranded waits)

end Seeks

/-! ## What turns have in common -/

/-- The call that is acted upon. -/
def Action.subject : Action α → Nat
  | .call number _ => number
  | .poll number _ => number
  | .drop number => number

@[simp] theorem Action.subject_call (call : Nat) (key : String) :
    (Action.call call key : Action α).subject = call :=
  rfl

@[simp] theorem Action.subject_poll (call : Nat) (ready : Option α) :
    (Action.poll call ready).subject = call :=
  rfl

@[simp] theorem Action.subject_drop (call : Nat) : (Action.drop call : Action α).subject = call :=
  rfl

/-- The computation of this call returned or was cancelled. -/
def Ends (action : Action α) (outcome : Outcome α) (call : Nat) : Prop :=
  action = .drop call ∨ ∃ value, .finished call value ∈ outcome.events

namespace Turn

variable {flight : Flight α} {action : Action α} {outcome : Outcome α} {call other : Nat}
  {key : String}

theorem consistent (turn : flight.Turn action outcome) (before : flight.Consistent) :
    outcome.flight.Consistent := by
  cases turn with
  | creates call key new => exact before.enter key new
  | taken | missing | waits | continues | unknown => exact before
  | receives call ready key mailbox value waits mail => exact before.leave waits
  | queues call ready key base waiters seeks recorded =>
    exact (seeks.consistent before).queue seeks.idle recorded
  | finishes call key value leads => exact before.retire leads _ (by simp)
  | starts call key base seeks absent => exact (seeks.consistent before).lead seeks.idle absent
  | computes call key value base seeks absent =>
    have led := (seeks.consistent before).lead seeks.idle absent
    exact led.retire (by simp [leads_lead]) _ (by simp)
  | forgets call key fresh => exact before.forget fresh
  | abandons call key mailbox waits => exact before.leave waits
  | cancels call key leads => exact before.retire leads _ (by simp)

/-- An action leaves all calls alone but its own. -/
theorem getElem?_of_ne (turn : flight.Turn action outcome) (other_ne : action.subject ≠ other) :
    outcome.flight.calls[other]? = flight.calls[other]? := by
  cases turn <;>
    simp only [Action.subject_call, Action.subject_poll, Action.subject_drop] at other_ne
  case creates call key new => rw [getElem?_enter _ _ _ _ new, if_neg other_ne]
  case taken | missing | waits | continues | unknown => rfl
  case receives | abandons => rw [getElem?_leave, if_neg other_ne]
  case queues call ready key base waiters seeks recorded =>
    rw [getElem?_queue, if_neg other_ne, seeks.getElem?_of_ne other_ne]
  case finishes | cancels => rw [getElem?_retire, if_neg other_ne]
  case starts call key base seeks absent =>
    rw [getElem?_lead, if_neg other_ne, seeks.getElem?_of_ne other_ne]
  case computes call key value base seeks absent =>
    rw [getElem?_retire, if_neg other_ne, getElem?_lead, if_neg other_ne,
      seeks.getElem?_of_ne other_ne]
  case forgets call key fresh =>
    rw [Std.ExtTreeMap.getElem?_erase, if_neg (by simpa using other_ne)]

/-- Computations start only in the call that is polled. -/
theorem subject_of_started (turn : flight.Turn action outcome)
    (started : .started call ∈ outcome.events) : action.subject = call := by
  cases turn <;> simp at started ⊢ <;> exact started.symm

/-- Computations return only in the call that is polled. -/
theorem subject_of_finished (turn : flight.Turn action outcome) {value : α}
    (finished : .finished call value ∈ outcome.events) : action.subject = call := by
  cases turn <;> simp at finished ⊢ <;> exact finished.1.symm

theorem subject_of_ends (turn : flight.Turn action outcome) (ends : Ends action outcome call) :
    action.subject = call := by
  rcases ends with rfl | ⟨value, finished⟩
  · rfl
  · exact turn.subject_of_finished finished

end Turn

end PeerCache.Flight
