import Mathlib.Tactic
import PeerCache.Flight.Run

/-! # The changes of a flight

A flight is read through three views: who leads a key, who waits for it at which mailbox, and which
mailboxes the leader of a key is going to write to. A call comes and goes, becomes a leader or joins
those that wait, and a leader goes with mail for its waiters. The operations of a flight are made of
these changes, and each is told here by what it does to the views.
-/

namespace PeerCache.Flight

variable {α : Type}

/-- The call runs the computation of this key. -/
def Leads (flight : Flight α) (call : Nat) (key : String) : Prop :=
  flight.calls[call]? = some ⟨key, .leading⟩

/-- The call waits for the value of this key in a mailbox. -/
def Waits (flight : Flight α) (call : Nat) (key : String) (mailbox : Nat) : Prop :=
  flight.calls[call]? = some ⟨key, .waiting mailbox⟩

/-- The leader of the key will write to the mailbox. -/
def Listed (flight : Flight α) (key : String) (mailbox : Nat) : Prop :=
  ∃ waiters, flight.records[key]? = some waiters ∧ mailbox ∈ waiters

/-! ## Posting -/

/-- Mail reaches the listed mailboxes that are in use, and no others. -/
theorem getElem?_post (mailboxes : Std.ExtTreeMap Nat (Mail α)) (listed : List Nat) (mail : Mail α)
    (mailbox : Nat) :
    (post mailboxes listed mail)[mailbox]? =
      if mailbox ∈ listed then mailboxes[mailbox]?.map fun _ => mail else mailboxes[mailbox]? := by
  unfold post
  induction listed generalizing mailboxes with
  | nil => simp
  | cons head rest ih =>
    rw [List.foldl_cons, ih, Std.ExtTreeMap.getElem?_modify]
    by_cases same : head = mailbox
    · subst same
      by_cases again : head ∈ rest <;> simp [again, Function.comp_def]
    · have other : mailbox ≠ head := fun equal => same equal.symm
      simp [same, other]

/-! ## The changes of a flight -/

/-- The flight without a call and its mailbox. -/
def leave (flight : Flight α) (call mailbox : Nat) : Flight α :=
  { flight with
    calls := flight.calls.erase call
    mailboxes := flight.mailboxes.erase mailbox }

/-- The flight without its leader of a key, whose waiters got mail. -/
def retire (flight : Flight α) (call : Nat) (key : String) (mail : Mail α) : Flight α :=
  { flight with calls := flight.calls.erase call }.land key mail

/-- The call neither leads nor waits. -/
def Idle (flight : Flight α) (call : Nat) : Prop :=
  ∀ key stance, flight.calls[call]? = some ⟨key, stance⟩ → stance = .fresh

/-- The flight in which a call has become the leader of a key. -/
def lead (flight : Flight α) (call : Nat) (key : String) : Flight α :=
  { flight with
    calls := flight.calls.insert call ⟨key, .leading⟩
    records := flight.records.insert key [] }

/-- The flight in which a call has come to those that wait for the leader of a key. -/
def queue (flight : Flight α) (call : Nat) (key : String) (waiters : List Nat) : Flight α :=
  { calls := flight.calls.insert call ⟨key, .waiting flight.nextMailbox⟩
    records := flight.records.insert key (waiters ++ [flight.nextMailbox])
    mailboxes := flight.mailboxes.insert flight.nextMailbox .awaited
    nextMailbox := flight.nextMailbox + 1 }

theorem join_of_absent {flight : Flight α} {call : Nat} {key : String}
    (absent : flight.records[key]? = none) :
    flight.join call key = (flight.lead call key, .started) := by
  unfold join
  rw [absent]
  rfl

theorem join_of_recorded {flight : Flight α} {call : Nat} {key : String} {waiters : List Nat}
    (recorded : flight.records[key]? = some waiters) :
    flight.join call key = (flight.queue call key waiters, .waiting) := by
  unfold join
  rw [recorded]
  rfl

/-- A call that starts over gives up its mailbox first. -/
theorem join_leave (flight : Flight α) (call mailbox : Nat) (key : String) :
    { flight with mailboxes := flight.mailboxes.erase mailbox }.join call key =
      (flight.leave call mailbox).join call key := by
  have same : ∀ entry : FlightCall,
      (flight.calls.erase call).insert call entry = flight.calls.insert call entry := by
    intro entry
    apply Std.ExtTreeMap.ext_getElem?
    intro other
    simp only [Std.ExtTreeMap.getElem?_insert, Std.ExtTreeMap.getElem?_erase]
    split <;> rfl
  simp only [join, leave, same]

section Changes

variable (flight : Flight α) (call other mailbox box : Nat) (key key' : String)

theorem getElem?_leave :
    (flight.leave call mailbox).calls[other]? =
      if call = other then none else flight.calls[other]? := by
  simp [leave, Std.ExtTreeMap.getElem?_erase]

theorem getElem?_retire (mail : Mail α) :
    (flight.retire call key mail).calls[other]? =
      if call = other then none else flight.calls[other]? := by
  simp [retire, land, Std.ExtTreeMap.getElem?_erase]

theorem getElem?_lead :
    (flight.lead call key).calls[other]? =
      if call = other then some ⟨key, .leading⟩ else flight.calls[other]? := by
  simp [lead, Std.ExtTreeMap.getElem?_insert]

theorem getElem?_queue (waiters : List Nat) :
    (flight.queue call key waiters).calls[other]? =
      if call = other then some ⟨key, .waiting flight.nextMailbox⟩ else flight.calls[other]? := by
  simp [queue, Std.ExtTreeMap.getElem?_insert]

theorem records_retire (mail : Mail α) :
    (flight.retire call key mail).records[key']? =
      if key = key' then none else flight.records[key']? := by
  simp [retire, land, Std.ExtTreeMap.getElem?_erase]

theorem records_lead :
    (flight.lead call key).records[key']? =
      if key = key' then some [] else flight.records[key']? := by
  simp [lead, Std.ExtTreeMap.getElem?_insert]

theorem records_queue (waiters : List Nat) :
    (flight.queue call key waiters).records[key']? =
      if key = key' then some (waiters ++ [flight.nextMailbox]) else flight.records[key']? := by
  simp [queue, Std.ExtTreeMap.getElem?_insert]

theorem mailboxes_leave :
    (flight.leave call mailbox).mailboxes[box]? =
      if mailbox = box then none else flight.mailboxes[box]? := by
  simp [leave, Std.ExtTreeMap.getElem?_erase]


theorem mailboxes_lead : (flight.lead call key).mailboxes = flight.mailboxes :=
  rfl

theorem mailboxes_queue (waiters : List Nat) :
    (flight.queue call key waiters).mailboxes[box]? =
      if flight.nextMailbox = box then some .awaited else flight.mailboxes[box]? := by
  simp [queue, Std.ExtTreeMap.getElem?_insert]

end Changes

section Views

variable (flight : Flight α) (call other mailbox box : Nat) (key key' : String)

theorem leads_leave :
    (flight.leave call mailbox).Leads other key ↔ call ≠ other ∧ flight.Leads other key := by
  simp [Leads, getElem?_leave]

theorem waits_leave :
    (flight.leave call mailbox).Waits other key box ↔
      call ≠ other ∧ flight.Waits other key box := by
  simp [Waits, getElem?_leave]

theorem listed_leave : (flight.leave call mailbox).Listed key box ↔ flight.Listed key box :=
  Iff.rfl

theorem leads_retire (mail : Mail α) :
    (flight.retire call key mail).Leads other key' ↔ call ≠ other ∧ flight.Leads other key' := by
  simp [Leads, getElem?_retire]

theorem waits_retire (mail : Mail α) :
    (flight.retire call key mail).Waits other key' box ↔
      call ≠ other ∧ flight.Waits other key' box := by
  simp [Waits, getElem?_retire]

theorem listed_retire (mail : Mail α) :
    (flight.retire call key mail).Listed key' box ↔ key ≠ key' ∧ flight.Listed key' box := by
  simp only [Listed, records_retire]
  by_cases same : key = key' <;> simp [same]

theorem mailboxes_retire_of_listed (mail : Mail α) (listed : flight.Listed key box) :
    (flight.retire call key mail).mailboxes[box]? = flight.mailboxes[box]?.map fun _ => mail := by
  obtain ⟨waiters, recorded, member⟩ := listed
  unfold retire land
  rw [getElem?_post, recorded, Option.getD_some, if_pos member]

theorem mailboxes_retire_of_not_listed (mail : Mail α) (unlisted : ¬ flight.Listed key box) :
    (flight.retire call key mail).mailboxes[box]? = flight.mailboxes[box]? := by
  unfold retire land
  rw [getElem?_post, if_neg]
  intro member
  cases recorded : flight.records[key]? with
  | none => simp [recorded] at member
  | some waiters => exact unlisted ⟨waiters, recorded, by simpa [recorded] using member⟩

theorem leads_lead :
    (flight.lead call key).Leads other key' ↔
      if call = other then key = key' else flight.Leads other key' := by
  simp only [Leads, getElem?_lead]
  split <;> simp

theorem waits_lead :
    (flight.lead call key).Waits other key' box ↔ call ≠ other ∧ flight.Waits other key' box := by
  simp only [Waits, getElem?_lead]
  split <;> simp [*]

theorem listed_lead :
    (flight.lead call key).Listed key' box ↔ key ≠ key' ∧ flight.Listed key' box := by
  simp only [Listed, records_lead]
  by_cases same : key = key' <;> simp [same]

theorem leads_queue (waiters : List Nat) :
    (flight.queue call key waiters).Leads other key' ↔ call ≠ other ∧ flight.Leads other key' := by
  simp only [Leads, getElem?_queue]
  split <;> simp [*]

theorem waits_queue (waiters : List Nat) :
    (flight.queue call key waiters).Waits other key' box ↔
      if call = other then key = key' ∧ box = flight.nextMailbox
      else flight.Waits other key' box := by
  simp only [Waits, getElem?_queue]
  split <;> simp [eq_comm]

theorem listed_queue {flight : Flight α} {key : String} {waiters : List Nat}
    (recorded : flight.records[key]? = some waiters) :
    (flight.queue call key waiters).Listed key' box ↔
      flight.Listed key' box ∨ key = key' ∧ box = flight.nextMailbox := by
  simp only [Listed, records_queue]
  by_cases same : key = key'
  · subst same
    simp [recorded]
  · simp [same]

end Views

theorem Listed.mem_records {flight : Flight α} {key : String} {mailbox : Nat}
    (listed : flight.Listed key mailbox) : key ∈ flight.records := by
  obtain ⟨waiters, recorded, -⟩ := listed
  rw [Std.ExtTreeMap.mem_iff_isSome_getElem?, recorded]
  rfl

theorem Leads.not_waits {flight : Flight α} {call mailbox : Nat} {key key' : String}
    (leads : flight.Leads call key) : ¬ flight.Waits call key' mailbox := by
  intro waits
  simpa using leads.symm.trans waits

theorem Leads.key_eq {flight : Flight α} {call : Nat} {key key' : String}
    (leads : flight.Leads call key) (again : flight.Leads call key') : key = key' := by
  simpa using leads.symm.trans again

theorem Leads.key?_eq {flight : Flight α} {call : Nat} {key : String}
    (leads : flight.Leads call key) : flight.key? call = some key := by
  rw [key?, show flight.calls[call]? = _ from leads, Option.map_some]

theorem Waits.key?_eq {flight : Flight α} {call mailbox : Nat} {key : String}
    (waits : flight.Waits call key mailbox) : flight.key? call = some key := by
  rw [key?, show flight.calls[call]? = _ from waits, Option.map_some]

theorem Waits.unique {flight : Flight α} {call mailbox mailbox' : Nat} {key key' : String}
    (waits : flight.Waits call key mailbox) (again : flight.Waits call key' mailbox') :
    key = key' ∧ mailbox = mailbox' := by
  simpa using waits.symm.trans again

theorem Idle.ne_of_leads {flight : Flight α} {call leader : Nat} {key : String}
    (idle : flight.Idle call) (leads : flight.Leads leader key) : call ≠ leader := by
  rintro rfl
  simpa using idle _ _ leads

theorem conclude_of_leads {flight : Flight α} {call : Nat} {key : String}
    (leads : flight.Leads call key) (value : α) :
    flight.conclude call value = flight.retire call key (.delivered value) := by
  unfold conclude
  rw [show flight.calls[call]? = _ from leads]
  rfl

/-! ## Calls that come -/

theorem getElem?_enter (flight : Flight α) (call other : Nat) (key : String)
    (new : call ∉ flight.calls) :
    (flight.enter call key).calls[other]? =
      if call = other then some ⟨key, .fresh⟩ else flight.calls[other]? := by
  simp [enter, new, Std.ExtTreeMap.getElem?_insert]

theorem getElem?_eq_none {flight : Flight α} {call : Nat} (new : call ∉ flight.calls) :
    flight.calls[call]? = none := by
  simpa using new

theorem mailboxes_enter (flight : Flight α) (call : Nat) (key : String) :
    (flight.enter call key).mailboxes = flight.mailboxes := by
  unfold enter
  split <;> rfl

theorem leads_enter {flight : Flight α} {call other : Nat} {key key' : String}
    (new : call ∉ flight.calls) :
    (flight.enter call key).Leads other key' ↔ flight.Leads other key' := by
  have absent := getElem?_eq_none new
  simp only [Leads, getElem?_enter _ _ _ _ new]
  split <;> simp_all

theorem waits_enter {flight : Flight α} {call other mailbox : Nat} {key key' : String}
    (new : call ∉ flight.calls) :
    (flight.enter call key).Waits other key' mailbox ↔ flight.Waits other key' mailbox := by
  have absent := getElem?_eq_none new
  simp only [Waits, getElem?_enter _ _ _ _ new]
  split <;> simp_all

end PeerCache.Flight
