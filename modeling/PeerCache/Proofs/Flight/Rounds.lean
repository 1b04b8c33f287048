import PeerCache.Proofs.Flight.Effects

/-! # The rounds of a poll

A polled call goes through a loop. At the head it looks for the record of its key, and leads or
leaves a mailbox there. Then it computes, or looks into its mailbox, which is empty, holds the value
or is closed. A call that finds it closed goes back to the head. `poll` tells at once what this loop
comes to. Here the loop is written out, one round after the other, and found to end after two rounds
at the latest.
-/

namespace PeerCache.Flight

variable {α : Type}

/-- The flight in which a call has given up its mailbox and is at the head of its loop again. -/
def restart (flight : Flight α) (call mailbox : Nat) (key : String) : Flight α :=
  { flight with
    calls := flight.calls.insert call ⟨key, .fresh⟩
    mailboxes := flight.mailboxes.erase mailbox }

/-- Look into the mailbox of a call. Answers what the poll comes to, or else the flight in which the
call starts over. -/
def look (flight : Flight α) (call mailbox : Nat) (key : String) : Flight α ⊕ Outcome α :=
  match flight.mailboxes[mailbox]? with
  | some .awaited => .inr ⟨flight, .pending, []⟩
  | some (.delivered value) => .inr ⟨flight.leave call mailbox, .returned value, []⟩
  | some .closed | none => .inl (flight.restart call mailbox key)

/-- Let a polled call go on from where it is, until the poll comes to something or the call is back
at the head of its loop. -/
def round (flight : Flight α) (call : Nat) (ready : Option α) : Flight α ⊕ Outcome α :=
  match flight.calls[call]? with
  | none => .inr ⟨flight, .absent, []⟩
  | some ⟨key, .fresh⟩ =>
    match flight.records[key]? with
    | none => .inr ((flight.lead call key).compute call ready [.started call])
    | some waiters => (flight.queue call key waiters).look call flight.nextMailbox key
  | some ⟨key, .waiting mailbox⟩ => flight.look call mailbox key
  | some ⟨_, .leading⟩ => .inr (flight.compute call ready [])

/-- What a poll comes to within a number of rounds. -/
def pollWithin (call : Nat) (ready : Option α) : (limit : Nat) → Flight α → Option (Outcome α)
  | 0, _ => none
  | limit + 1, flight =>
    match flight.round call ready with
    | .inr outcome => some outcome
    | .inl next => pollWithin call ready limit next

section Rounds

variable (flight : Flight α) (call mailbox : Nat) (key : String) (ready : Option α)

/-- A mailbox that was just left in a record is empty. -/
theorem look_queue (waiters : List Nat) :
    (flight.queue call key waiters).look call flight.nextMailbox key =
      .inr ⟨flight.queue call key waiters, .pending, []⟩ := by
  unfold look
  rw [mailboxes_queue, if_pos rfl]

/-- A round that begins at the head of the loop is the last one. -/
theorem round_of_fresh (fresh : flight.calls[call]? = some ⟨key, .fresh⟩) :
    flight.round call ready = .inr (flight.poll call ready) := by
  unfold round poll attend
  simp only [fresh]
  cases recorded : flight.records[key]? with
  | none => rw [join_of_absent recorded]
  | some waiters =>
    rw [join_of_recorded recorded]
    exact look_queue flight call key waiters

/-- It makes no difference to a call that joins whether it was at the head of its loop before. -/
theorem join_restart :
    (flight.restart call mailbox key).join call key =
      { flight with mailboxes := flight.mailboxes.erase mailbox }.join call key := by
  have same : ∀ entry : FlightCall,
      (flight.calls.insert call ⟨key, .fresh⟩).insert call entry =
        flight.calls.insert call entry := by
    intro entry
    apply Std.ExtTreeMap.ext_getElem?
    intro other
    simp only [Std.ExtTreeMap.getElem?_insert]
    split <;> rfl
  simp only [join, restart, same]

/-- A call that has to start over is polled as if it were at the head of its loop. -/
theorem poll_restart (waits : flight.Waits call key mailbox)
    (abandoned : flight.mailboxes[mailbox]? = some .closed ∨ flight.mailboxes[mailbox]? = none) :
    (flight.restart call mailbox key).poll call ready = flight.poll call ready := by
  have head : (flight.restart call mailbox key).calls[call]? = some ⟨key, .fresh⟩ :=
    Std.ExtTreeMap.getElem?_insert_self
  have again : (flight.restart call mailbox key).attend call = flight.attend call := by
    unfold attend
    rw [head, show flight.calls[call]? = _ from waits]
    rcases abandoned with closed | missing
    · simp only [closed]
      exact join_restart flight call mailbox key
    · simp only [missing]
      exact join_restart flight call mailbox key
  rw [poll, again, ← poll]

/-- A call that finds its mailbox closed goes back to the head of its loop. -/
theorem round_of_closed (waits : flight.Waits call key mailbox)
    (closed : flight.mailboxes[mailbox]? = some .closed) :
    flight.round call ready = .inl (flight.restart call mailbox key) := by
  unfold round look
  simp only [show flight.calls[call]? = _ from waits, closed]

/-- A poll comes to something in its first round, unless the call waits at a mailbox in which there
is nothing to wait for. -/
theorem round_eq :
    flight.round call ready = .inr (flight.poll call ready) ∨
      ∃ key mailbox, flight.Waits call key mailbox ∧
        (flight.mailboxes[mailbox]? = some .closed ∨ flight.mailboxes[mailbox]? = none) ∧
        flight.round call ready = .inl (flight.restart call mailbox key) := by
  rcases found : flight.calls[call]? with _ | ⟨key, _ | mailbox | _⟩
  · exact .inl (by simp [round, poll, attend, found])
  · exact .inl (round_of_fresh flight call key ready found)
  · rcases mail : flight.mailboxes[mailbox]? with _ | _ | value | _
    · exact .inr ⟨key, mailbox, found, .inr mail, by simp [round, look, found, mail]⟩
    · exact .inl (by simp [round, look, poll, attend, found, mail])
    · exact .inl (by simp [round, look, poll, attend, found, mail, leave])
    · exact .inr ⟨key, mailbox, found, .inl mail,
        round_of_closed flight call mailbox key ready found mail⟩
  · exact .inl (by simp [round, poll, attend, found])

/-- The loop of a polled call ends in its second round at the latest, with what `poll` tells. -/
theorem pollWithin_eq_poll {limit : Nat} (enough : 2 ≤ limit) :
    pollWithin call ready limit flight = some (flight.poll call ready) := by
  obtain ⟨limit, rfl⟩ := Nat.exists_eq_add_of_le' enough
  rcases flight.round_eq call ready with ends | ⟨key, mailbox, waits, abandoned, restarts⟩
  · simp only [pollWithin, ends]
  · have head : (flight.restart call mailbox key).calls[call]? = some ⟨key, .fresh⟩ :=
      Std.ExtTreeMap.getElem?_insert_self
    simp only [pollWithin, restarts, round_of_fresh _ call key ready head]
    rw [poll_restart flight call mailbox key ready waits abandoned]

end Rounds

end PeerCache.Flight
