import PeerCache.Proofs.Flight.Turns

/-! # The effects of a turn

What one action can do to a leader, to a record and to a waiting call. A call leads from the action
that starts its computation to the one that ends it. The record of a leader only grows meanwhile. A
waiting call keeps its mailbox, into which nobody but the leader of its key writes, and only once.
-/

namespace PeerCache.Flight.Turn

variable {α : Type} {flight : Flight α} {action : Action α} {outcome : Outcome α}
  {call other : Nat} {key : String}

/-- A call leads if it did or has just started, and its computation did not end. -/
theorem leads_iff (turn : flight.Turn action outcome) (call : Nat) (key : String) :
    outcome.flight.Leads call key ↔
      (flight.Leads call key ∨ .started call ∈ outcome.events ∧ flight.key? call = some key) ∧
        ¬ Ends action outcome call := by
  by_cases same : action.subject = call
  · subst same
    cases turn <;> simp only [Action.subject_call, Action.subject_poll, Action.subject_drop]
    case creates call key' new =>
      simp [Leads, Ends, getElem?_enter _ _ _ _ new, getElem?_eq_none new]
    case taken | missing | waits | continues => simp [Ends]
    case unknown call missing => simp [Ends, Leads, missing]
    case receives call ready key' mailbox value waits mail =>
      have idle : ¬ flight.Leads call key := fun leads => leads.not_waits waits
      simp [leads_leave, idle]
    case queues call ready key' base waiters seeks recorded =>
      simp [leads_queue, seeks.not_leads]
    case finishes | cancels => simp [leads_retire, Ends]
    case starts call key' base seeks absent =>
      simp [leads_lead, Ends, seeks.key?_eq, seeks.not_leads]
    case computes => simp [leads_retire, Ends]
    case forgets => simp [Leads, Ends]
    case abandons => simp [leads_leave, Ends]
  · have stays : ¬ Ends action outcome call := fun ends => same (turn.subject_of_ends ends)
    have rests : .started call ∉ outcome.events := fun event => same (turn.subject_of_started event)
    simp [Leads, turn.getElem?_of_ne same, stays, rests]

/-- A computation starts in a live call, and only while nobody leads its key. -/
theorem vacant_of_started (turn : flight.Turn action outcome) (before : flight.Consistent)
    (started : .started call ∈ outcome.events) :
    ∃ key, flight.key? call = some key ∧ ∀ leader, ¬ flight.Leads leader key := by
  have vacant : ∀ key base, flight.Seeks call key base → base.records[key]? = none →
      ∃ key, flight.key? call = some key ∧ ∀ leader, ¬ flight.Leads leader key := by
    intro key base seeks absent
    refine ⟨key, seeks.key?_eq, ?_⟩
    intro leader leads
    have present := (before.recorded key).mpr ⟨leader, leads⟩
    rw [Std.ExtTreeMap.mem_iff_isSome_getElem?, ← seeks.records_eq, absent] at present
    simp at present
  cases turn <;> simp at started
  case starts other key base seeks absent =>
    subst started
    exact vacant key base seeks absent
  case computes other key value base seeks absent =>
    subst started
    exact vacant key base seeks absent

theorem events_nodup (turn : flight.Turn action outcome) : outcome.events.Nodup := by
  cases turn <;> simp

/-- A call that returns has computed its value, or found it in its mailbox. -/
theorem returned (turn : flight.Turn action outcome) {value : α}
    (answer : outcome.answer = .returned value) :
    (.finished action.subject value ∈ outcome.events ∧
      ((∃ key, flight.Leads action.subject key) ∨ .started action.subject ∈ outcome.events)) ∨
    (outcome.events = [] ∧ ∃ key mailbox, flight.Waits action.subject key mailbox ∧
      flight.mailboxes[mailbox]? = some (.delivered value)) := by
  cases turn <;> simp at answer
  case receives call ready key mailbox found waits mail =>
    subst answer
    exact .inr ⟨rfl, key, mailbox, waits, mail⟩
  case finishes call key found leads =>
    subst answer
    exact .inl ⟨by simp, .inl ⟨key, leads⟩⟩
  case computes call key found base seeks absent =>
    subst answer
    exact .inl ⟨by simp, .inr (by simp)⟩

/-- Only a live call returns. -/
theorem live_of_returned (turn : flight.Turn action outcome) (before : flight.Consistent)
    {value : α} (answer : outcome.answer = .returned value) : action.subject ∈ flight.calls := by
  rw [Std.ExtTreeMap.mem_iff_isSome_getElem?]
  rcases turn.returned answer with ⟨-, ⟨key, leads⟩ | started⟩ | ⟨-, key, mailbox, waits, -⟩
  · rw [leads, Option.isSome_some]
  · obtain ⟨key, known, -⟩ := turn.vacant_of_started before started
    rw [← Option.isSome_map]
    exact Option.isSome_of_eq_some known
  · rw [waits, Option.isSome_some]

/-- A computation that returns makes its call return the same value. -/
theorem answer_of_finished (turn : flight.Turn action outcome) {value : α}
    (finished : .finished call value ∈ outcome.events) :
    action = .poll call (some value) ∧ outcome.answer = .returned value := by
  cases turn <;> simp at finished
  case finishes => simp [finished]
  case computes => simp [finished]

/-- A call that returned or was cancelled is gone. -/
theorem gone_of_returned (turn : flight.Turn action outcome) {value : α}
    (answer : outcome.answer = .returned value) :
    outcome.flight.calls[action.subject]? = none := by
  cases turn <;> simp at answer
  case receives => simp [getElem?_leave]
  case finishes => simp [getElem?_retire]
  case computes => simp [getElem?_retire]

theorem gone_of_dropped (turn : flight.Turn (.drop call) outcome) :
    outcome.flight.calls[call]? = none := by
  cases turn with
  | unknown _ missing => exact missing
  | forgets => simp
  | abandons => simp [getElem?_leave]
  | cancels => simp [getElem?_retire]

theorem gone_of_ends (turn : flight.Turn action outcome) (ends : Ends action outcome call) :
    outcome.flight.calls[call]? = none := by
  rcases ends with rfl | ⟨value, finished⟩
  · exact turn.gone_of_dropped
  · obtain ⟨rfl, answer⟩ := turn.answer_of_finished finished
    exact turn.gone_of_returned answer

/-- A call keeps its key for life. -/
theorem key?_stays (turn : flight.Turn action outcome) (found : flight.key? call = some key) :
    outcome.flight.calls[call]? = none ∨ outcome.flight.key? call = some key := by
  by_cases same : action.subject = call
  · subst same
    cases turn <;> simp only [Action.subject_call, Action.subject_poll, Action.subject_drop] at *
    case creates call key' new => simp [key?, getElem?_eq_none new] at found
    case taken | missing | waits | continues | unknown => exact .inr found
    case receives | abandons => simp [getElem?_leave]
    case queues call ready key' base waiters seeks recorded =>
      rw [seeks.key?_eq] at found
      simpa [key?, getElem?_queue] using found
    case finishes | computes | cancels => simp [getElem?_retire]
    case starts call key' base seeks absent =>
      rw [seeks.key?_eq] at found
      simpa [key?, getElem?_lead] using found
    case forgets => simp
  · right
    rwa [key?, turn.getElem?_of_ne same]

/-- Calls come into being in no other way than by being created. -/
theorem created (turn : flight.Turn action outcome) (missing : flight.calls[call]? = none)
    (live : outcome.flight.calls[call]? ≠ none) :
    ∃ key, action = .call call key ∧ outcome.flight.calls[call]? = some ⟨key, .fresh⟩ := by
  by_cases same : action.subject = call
  · subst same
    cases turn <;> simp only [Action.subject_call, Action.subject_poll, Action.subject_drop] at *
    case creates call key new => exact ⟨key, rfl, by simp [getElem?_enter _ _ _ _ new]⟩
    case taken | missing | waits | continues | unknown => exact absurd missing live
    case receives | abandons => simp [getElem?_leave] at live
    case finishes | computes | cancels => simp [getElem?_retire] at live
    case queues call ready key base waiters seeks recorded =>
      have found := seeks.key?_eq
      simp [key?, missing] at found
    case starts call key base seeks absent =>
      have found := seeks.key?_eq
      simp [key?, missing] at found
    case forgets => simp at live
  · rw [turn.getElem?_of_ne same] at live
    exact absurd missing live

/-- The record of a leader grows at its end, until its computation ends. -/
theorem record_grows (turn : flight.Turn action outcome) (before : flight.Consistent)
    {waiters : List Nat} (leads : flight.Leads call key)
    (found : flight.records[key]? = some waiters) (stays : ¬ Ends action outcome call) :
    ∃ more, outcome.flight.records[key]? = some (waiters ++ more) := by
  have kept : some waiters = some (waiters ++ []) := by rw [List.append_nil]
  cases turn
  case creates other key' new => exact ⟨[], by simpa [enter, new] using found⟩
  case taken | missing | waits | continues | unknown | forgets | receives | abandons =>
    exact ⟨[], found.trans kept⟩
  case queues other ready key' base more seeks recorded =>
    rw [records_queue, seeks.records_eq, found]
    rw [seeks.records_eq] at recorded
    split
    case isTrue same =>
      subst same
      obtain rfl : waiters = more := by simpa using found.symm.trans recorded
      exact ⟨_, rfl⟩
    case isFalse => exact ⟨[], kept⟩
  case finishes other key' value again =>
    refine ⟨[], ?_⟩
    rw [records_retire, if_neg, found, ← kept]
    rintro rfl
    obtain rfl := before.single _ _ _ leads again
    exact stays (.inr ⟨value, by simp⟩)
  case starts other key' base seeks absent =>
    refine ⟨[], ?_⟩
    rw [records_lead, seeks.records_eq, if_neg, found, ← kept]
    rintro rfl
    simp [seeks.records_eq, found] at absent
  case computes other key' value base seeks absent =>
    have apart : key' ≠ key := by
      rintro rfl
      simp [seeks.records_eq, found] at absent
    refine ⟨[], ?_⟩
    rw [records_retire, if_neg apart, records_lead, if_neg apart, seeks.records_eq, found, ← kept]
  case cancels other key' again =>
    refine ⟨[], ?_⟩
    rw [records_retire, if_neg, found, ← kept]
    rintro rfl
    obtain rfl := before.single _ _ _ leads again
    exact stays (.inl rfl)

/-- The mailbox of a waiting call changes in one way: it is empty, and the computation that leads
its key ends. Then it holds the value of that computation, or is closed if there is none. -/
theorem mail_of_waiting (turn : flight.Turn action outcome) (before : flight.Consistent)
    {mailbox : Nat} (waits : flight.Waits call key mailbox) (elsewhere : action.subject ≠ call) :
    outcome.flight.mailboxes[mailbox]? = flight.mailboxes[mailbox]? ∨
      flight.mailboxes[mailbox]? = some .awaited ∧ ∃ leader, flight.Leads leader key ∧
        ((∃ value, .finished leader value ∈ outcome.events ∧
            outcome.flight.mailboxes[mailbox]? = some (.delivered value)) ∨
          action = .drop leader ∧ outcome.flight.mailboxes[mailbox]? = some .closed) := by
  have used := before.held call key mailbox waits
  have awaited := before.awaited call key mailbox waits
  -- A leader writes to the waiting call if that is listed in its record, and then shares its key.
  have posts : ∀ leader key' mail, flight.Leads leader key' →
      (flight.retire leader key' mail).mailboxes[mailbox]? = flight.mailboxes[mailbox]? ∨
        key' = key ∧ flight.mailboxes[mailbox]? = some .awaited ∧
          (flight.retire leader key' mail).mailboxes[mailbox]? = some mail := by
    intro leader key' mail leads
    by_cases listed : flight.Listed key' mailbox
    · right
      obtain rfl := before.home _ _ _ _ waits listed
      have empty := awaited.mpr listed
      exact ⟨rfl, empty, by rw [mailboxes_retire_of_listed _ _ _ _ _ listed, empty]; rfl⟩
    · exact .inl (mailboxes_retire_of_not_listed _ _ _ _ _ listed)
  cases turn <;>
    simp only [Action.subject_call, Action.subject_poll, Action.subject_drop] at elsewhere
  case creates other key' new => exact .inl (by simp [enter, new])
  case taken | missing | waits | continues | unknown | forgets => exact .inl rfl
  case receives other ready key' box value again mail =>
    left
    rw [mailboxes_leave, if_neg]
    rintro rfl
    exact elsewhere (before.apart _ _ _ _ _ again waits)
  case abandons other key' box again =>
    left
    rw [mailboxes_leave, if_neg]
    rintro rfl
    exact elsewhere (before.apart _ _ _ _ _ again waits)
  case queues other ready key' base waiters seeks recorded =>
    left
    have old := before.numbered mailbox used
    rw [mailboxes_queue, if_neg (by rw [seeks.nextMailbox_eq]; omega)]
    exact seeks.mailboxes_eq before waits elsewhere
  case starts other key' base seeks absent =>
    left
    rw [mailboxes_lead]
    exact seeks.mailboxes_eq before waits elsewhere
  case computes other key' value base seeks absent =>
    left
    rw [mailboxes_retire_of_not_listed, mailboxes_lead]
    · exact seeks.mailboxes_eq before waits elsewhere
    · simp [listed_lead]
  case finishes leader key' value leads =>
    rcases posts leader key' (.delivered value) leads with same | ⟨rfl, empty, posted⟩
    · exact .inl same
    · exact .inr ⟨empty, leader, leads, .inl ⟨value, by simp, posted⟩⟩
  case cancels leader key' leads =>
    rcases posts leader key' .closed leads with same | ⟨rfl, empty, posted⟩
    · exact .inl same
    · exact .inr ⟨empty, leader, leads, .inr ⟨rfl, posted⟩⟩

/-- A call that waits after it was polled did so before, or was given a new mailbox in the record of
a leader. -/
theorem waits_of_polled (turn : flight.Turn action outcome) {mailbox : Nat}
    (waits : outcome.flight.Waits action.subject key mailbox) :
    outcome.flight = flight ∨
      mailbox = flight.nextMailbox ∧ outcome.events = [] ∧ outcome.answer = .pending ∧
        (∃ ready, action = .poll action.subject ready) ∧
        flight.key? action.subject = some key ∧ outcome.flight.Listed key mailbox := by
  cases turn
  case creates call key' new => simp [Waits, getElem?_enter _ _ _ _ new] at waits
  case taken | missing | waits | continues | unknown => exact .inl rfl
  case receives | abandons => simp [waits_leave] at waits
  case finishes | computes | cancels => simp [waits_retire] at waits
  case starts => simp [waits_lead] at waits
  case forgets => simp [Waits] at waits
  case queues call ready key' base waiters seeks recorded =>
    simp only [Action.subject_poll, waits_queue, if_true] at waits
    obtain ⟨rfl, rfl⟩ := waits
    refine .inr ⟨seeks.nextMailbox_eq, rfl, rfl, ⟨ready, rfl⟩, seeks.key?_eq, ?_⟩
    exact (listed_queue _ _ _ recorded).mpr (.inr ⟨rfl, rfl⟩)

/-- A call whose mail has come returns it when it is polled. -/
theorem delivered {ready : Option α} (turn : flight.Turn (.poll call ready) outcome)
    {mailbox : Nat} {value : α} (waits : flight.Waits call key mailbox)
    (mail : flight.mailboxes[mailbox]? = some (.delivered value)) :
    outcome.answer = .returned value ∧ outcome.events = [] := by
  cases turn with
  | missing _ _ missing => simpa using waits.symm.trans missing
  | waits _ _ key' box again empty =>
    rw [← (waits.unique again).2, mail] at empty
    simp at empty
  | receives _ _ key' box found again arrived =>
    rw [← (waits.unique again).2, mail] at arrived
    exact ⟨by simpa using arrived.symm, rfl⟩
  | queues _ _ key' base waiters seeks recorded => simpa [mail] using seeks.closed waits
  | starts _ key' base seeks absent => simpa [mail] using seeks.closed waits
  | computes _ key' value base seeks absent => simpa [mail] using seeks.closed waits
  | continues _ key' leads => exact (leads.not_waits waits).elim
  | finishes _ key' value leads => exact (leads.not_waits waits).elim

/-- A call whose mail has not come stays as it is when it is polled. -/
theorem awaited {ready : Option α} (turn : flight.Turn (.poll call ready) outcome)
    {mailbox : Nat} (waits : flight.Waits call key mailbox)
    (mail : flight.mailboxes[mailbox]? = some .awaited) :
    outcome = ⟨flight, .pending, []⟩ := by
  cases turn with
  | missing _ _ missing => simpa using waits.symm.trans missing
  | waits => rfl
  | receives _ _ key' box found again arrived =>
    rw [← (waits.unique again).2, mail] at arrived
    simp at arrived
  | queues _ _ key' base waiters seeks recorded => simpa [mail] using seeks.closed waits
  | starts _ key' base seeks absent => simpa [mail] using seeks.closed waits
  | computes _ key' value base seeks absent => simpa [mail] using seeks.closed waits
  | continues _ key' leads => exact (leads.not_waits waits).elim
  | finishes _ key' value leads => exact (leads.not_waits waits).elim

/-- A waiting call waits on at its mailbox until it is over, unless its leader was cancelled. -/
theorem waits_on (turn : flight.Turn action outcome) {mailbox : Nat}
    (waits : flight.Waits call key mailbox)
    (unclosed : flight.mailboxes[mailbox]? ≠ some .closed)
    (live : outcome.flight.calls[call]? ≠ none) : outcome.flight.Waits call key mailbox := by
  by_cases same : action.subject = call
  · subst same
    cases turn
    case creates other key' new => simp [Waits, getElem?_eq_none new] at waits
    case taken | missing | waits | continues | unknown => exact waits
    case receives | abandons => simp [getElem?_leave] at live
    case finishes | computes | cancels => simp [getElem?_retire] at live
    case forgets => simp at live
    case queues other ready key' base waiters seeks recorded =>
      exact (unclosed (seeks.closed waits)).elim
    case starts other key' base seeks absent => exact (unclosed (seeks.closed waits)).elim
  · rwa [Waits, turn.getElem?_of_ne same]

/-- A call had its key before, or was just created for it. -/
theorem key?_origin (turn : flight.Turn action outcome)
    (found : outcome.flight.key? call = some key) :
    flight.key? call = some key ∨ action = .call call key := by
  obtain ⟨entry, live, rfl⟩ := Option.map_eq_some_iff.mp found
  cases missing : flight.calls[call]? with
  | none =>
    obtain ⟨key, rfl, created⟩ := turn.created missing (by simp [live])
    obtain rfl : _ = entry := by simpa using created.symm.trans live
    exact .inr rfl
  | some old =>
    have known : flight.key? call = some old.key := by rw [key?, missing, Option.map_some]
    rcases turn.key?_stays known with gone | kept
    · simp [gone] at live
    · exact .inl (known.trans (kept.symm.trans found))

/-- Mail in the mailbox of a waiting call was there before, or comes from the leader of its key. -/
theorem mail_origin (turn : flight.Turn action outcome) (before : flight.Consistent)
    {mailbox : Nat} {value : α} (waits : outcome.flight.Waits call key mailbox)
    (mail : outcome.flight.mailboxes[mailbox]? = some (.delivered value)) :
    flight.Waits call key mailbox ∧ (flight.mailboxes[mailbox]? = some (.delivered value) ∨
      ∃ leader, flight.Leads leader key ∧ .finished leader value ∈ outcome.events) := by
  by_cases own : action.subject = call
  · subst own
    rcases turn.waits_of_polled waits with same | ⟨-, -, -, -, -, listed⟩
    · rw [same] at waits mail
      exact ⟨waits, .inl mail⟩
    · have empty := ((turn.consistent before).awaited _ _ _ waits).mpr listed
      simp [mail] at empty
  · have waited : flight.Waits call key mailbox := by
      rwa [Waits, ← turn.getElem?_of_ne own]
    refine ⟨waited, ?_⟩
    rcases turn.mail_of_waiting before waited own with same | ⟨-, leader, leads, change⟩
    · exact .inl (same.symm.trans mail)
    · rcases change with ⟨value', finished, mail'⟩ | ⟨-, mail'⟩
      · obtain rfl : value = value' := by simpa using mail.symm.trans mail'
        exact .inr ⟨leader, leads, finished⟩
      · simp [mail] at mail'

end PeerCache.Flight.Turn
