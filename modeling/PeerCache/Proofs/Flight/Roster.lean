import PeerCache.Proofs.Flight.Turns

/-! # Flights without mailboxes

What a flight answers depends neither on the numbers of its mailboxes nor on the order of a record,
nor on the mailboxes in it whose owners are gone. A roster only says which calls are live, for which
keys, and what each of them has to expect: a call that waits has its mail. A consistent flight acts
as its roster does, so two flights with the same roster cannot be told apart.
-/

namespace PeerCache

/-- How a live call takes part in a flight, told without its mailbox. -/
inductive Standing (α : Type) where
  /-- It was never polled. -/
  | fresh
  /-- It waits, or will find this mail at its next poll. -/
  | waiting (mail : Mail α)
  /-- Its own computation runs. -/
  | leading

/-- The key and the standing of every live call. -/
abbrev Roster (α : Type) := Nat → Option (String × Standing α)

namespace Roster

variable {α : Type}

/-- Some call computes for the key. -/
def Led (roster : Roster α) (key : String) : Prop :=
  ∃ leader, roster leader = some (key, .leading)

/-- A live call after mail was sent to all that wait for the leader of a key. -/
def served (key : String) (mail : Mail α) : String × Standing α → String × Standing α
  | (other, .waiting .awaited) => (other, .waiting (if other = key then mail else .awaited))
  | entry => entry

/-- The leader of a key goes, with mail for those that wait for it. -/
def retire (roster : Roster α) (call : Nat) (key : String) (mail : Mail α) : Roster α :=
  Function.update (fun other => (roster other).map (served key mail)) call none

/-- The computation of a call goes on, after the events of this poll so far. -/
def compute (roster : Roster α) (call : Nat) (key : String) (events : List (Flight.Event α)) :
    Option α → Roster α × Flight.Answer α × List (Flight.Event α)
  | none => (Function.update roster call (some (key, .leading)), .pending, events)
  | some value =>
    (roster.retire call key (.delivered value), .returned value,
      events ++ [.finished call value])

open Classical in
/-- A call waits for the leader of its key if there is one, and otherwise leads. -/
noncomputable def join (roster : Roster α) (call : Nat) (key : String) (ready : Option α) :
    Roster α × Flight.Answer α × List (Flight.Event α) :=
  if roster.Led key then
    (Function.update roster call (some (key, .waiting .awaited)), .pending, [])
  else roster.compute call key [.started call] ready

/-- What an action does to a roster, with its answer and its events. -/
noncomputable def step (roster : Roster α) :
    Flight.Action α → Roster α × Flight.Answer α × List (Flight.Event α)
  | .call call key =>
    match roster call with
    | none => (Function.update roster call (some (key, .fresh)), .created, [])
    | some _ => (roster, .created, [])
  | .poll call ready =>
    match roster call with
    | none => (roster, .absent, [])
    | some (key, .fresh) => roster.join call key ready
    | some (_, .waiting .awaited) => (roster, .pending, [])
    | some (_, .waiting (.delivered value)) =>
      (Function.update roster call none, .returned value, [])
    | some (key, .waiting .closed) => roster.join call key ready
    | some (key, .leading) => roster.compute call key [] ready
  | .drop call =>
    match roster call with
    | none => (roster, .dropped false, [])
    | some (key, .leading) => (roster.retire call key .closed, .dropped true, [])
    | some _ => (Function.update roster call none, .dropped true, [])

theorem retire_update (roster : Roster α) (call : Nat) (entry : Option (String × Standing α))
    (key : String) (mail : Mail α) :
    retire (Function.update roster call entry) call key mail = roster.retire call key mail := by
  funext other
  by_cases same : other = call
  · simp [retire, same]
  · simp [retire, same]

end Roster

namespace Flight

variable {α : Type} {flight base : Flight α} {call mailbox : Nat} {key : String}

/-- A stance, with the mail in place of its mailbox. A mailbox that is not in use is as good as
closed. -/
def standing (flight : Flight α) : Stance → Standing α
  | .fresh => .fresh
  | .waiting mailbox => .waiting (flight.mailboxes[mailbox]?.getD .closed)
  | .leading => .leading

/-- What a flight looks like without its mailboxes. -/
def roster (flight : Flight α) : Roster α := fun call =>
  flight.calls[call]?.map fun entry => (entry.key, flight.standing entry.stance)

private theorem roster_of_found {stance : Stance}
    (found : flight.calls[call]? = some ⟨key, stance⟩) :
    flight.roster call = some (key, flight.standing stance) := by
  rw [roster, found, Option.map_some]

theorem roster_of_missing (missing : flight.calls[call]? = none) : flight.roster call = none := by
  rw [roster, missing, Option.map_none]

theorem Waits.roster_eq (waits : flight.Waits call key mailbox) {mail : Mail α}
    (found : flight.mailboxes[mailbox]? = some mail) :
    flight.roster call = some (key, .waiting mail) := by
  rw [roster_of_found waits, standing, found, Option.getD_some]

theorem Leads.roster_eq (leads : flight.Leads call key) :
    flight.roster call = some (key, .leading) :=
  roster_of_found leads

theorem leads_iff_roster : flight.Leads call key ↔ flight.roster call = some (key, .leading) := by
  refine ⟨Leads.roster_eq, fun found => ?_⟩
  obtain ⟨⟨key', stance⟩, live, same⟩ := Option.map_eq_some_iff.mp found
  cases stance <;> simp [standing] at same
  rwa [same] at live

theorem roster_map_fst : (flight.roster call).map Prod.fst = flight.key? call := by
  rw [roster, key?, Option.map_map]
  rfl

/-- A record stands for a leader on the roster. -/
theorem Consistent.led_iff (consistent : flight.Consistent) :
    flight.roster.Led key ↔ flight.records[key]? ≠ none := by
  rw [← Option.isSome_iff_ne_none, ← Std.ExtTreeMap.mem_iff_isSome_getElem?, consistent.recorded]
  simp only [Roster.Led, leads_iff_roster]

/-! ## The changes of a flight on its roster -/

/-- Two flights in which a call stands alike. -/
theorem roster_congr {next : Flight α} (calls : next.calls[call]? = flight.calls[call]?)
    (mailboxes : ∀ key mailbox, flight.Waits call key mailbox →
      next.mailboxes[mailbox]? = flight.mailboxes[mailbox]?) :
    next.roster call = flight.roster call := by
  unfold roster
  rw [calls]
  refine Option.map_congr fun ⟨key, stance⟩ live => ?_
  cases stance with
  | fresh | leading => rfl
  | waiting mailbox => simp only [standing, mailboxes key mailbox live]

private theorem roster_enter (new : call ∉ flight.calls) :
    (flight.enter call key).roster = Function.update flight.roster call (some (key, .fresh)) := by
  funext other
  by_cases same : other = call
  · subst same
    rw [Function.update_self]
    exact roster_of_found (by rw [getElem?_enter _ _ _ _ new, if_pos rfl])
  · rw [Function.update_of_ne same]
    refine roster_congr (by rw [getElem?_enter _ _ _ _ new, if_neg (Ne.symm same)]) ?_
    intro _ _ _
    rw [mailboxes_enter]

private theorem roster_forget :
    ({ flight with calls := flight.calls.erase call } : Flight α).roster =
      Function.update flight.roster call none := by
  funext other
  by_cases same : other = call
  · subst same
    rw [Function.update_self]
    exact roster_of_missing (by simp)
  · rw [Function.update_of_ne same]
    exact roster_congr (by simp [Std.ExtTreeMap.getElem?_erase, Ne.symm same]) fun _ _ _ => rfl

theorem Consistent.roster_leave (consistent : flight.Consistent)
    (waits : flight.Waits call key mailbox) :
    (flight.leave call mailbox).roster = Function.update flight.roster call none := by
  funext other
  by_cases same : other = call
  · subst same
    rw [Function.update_self]
    exact roster_of_missing (by rw [getElem?_leave, if_pos rfl])
  · rw [Function.update_of_ne same]
    refine roster_congr (by rw [getElem?_leave, if_neg (Ne.symm same)]) ?_
    intro key' box waits'
    rw [mailboxes_leave, if_neg]
    rintro rfl
    exact same (consistent.apart other call key' key mailbox waits' waits)

private theorem roster_lead (flight : Flight α) (call : Nat) (key : String) :
    (flight.lead call key).roster = Function.update flight.roster call (some (key, .leading)) := by
  funext other
  by_cases same : other = call
  · subst same
    rw [Function.update_self]
    exact leads_iff_roster.mp (by simp [leads_lead])
  · rw [Function.update_of_ne same]
    exact roster_congr (by rw [getElem?_lead, if_neg (Ne.symm same)]) fun _ _ _ => rfl

theorem Consistent.roster_queue (consistent : flight.Consistent) (call : Nat) (key : String)
    (waiters : List Nat) :
    (flight.queue call key waiters).roster =
      Function.update flight.roster call (some (key, .waiting .awaited)) := by
  funext other
  by_cases same : other = call
  · subst same
    rw [Function.update_self]
    have waits : (flight.queue other key waiters).Waits other key flight.nextMailbox := by
      simp [waits_queue]
    exact waits.roster_eq (by simp [mailboxes_queue])
  · rw [Function.update_of_ne same]
    refine roster_congr (by rw [getElem?_queue, if_neg (Ne.symm same)]) ?_
    intro key' box waits
    -- the number that is handed out is new to every waiter
    have handed := consistent.numbered box (consistent.held other key' box waits)
    rw [mailboxes_queue, if_neg (Nat.ne_of_gt handed)]

theorem Consistent.roster_retire (consistent : flight.Consistent) (call : Nat) (key : String)
    (mail : Mail α) :
    (flight.retire call key mail).roster = flight.roster.retire call key mail := by
  funext other
  by_cases same : other = call
  · subst same
    rw [Roster.retire, Function.update_self]
    exact roster_of_missing (by rw [getElem?_retire, if_pos rfl])
  · rw [Roster.retire, Function.update_of_ne same, roster, roster, getElem?_retire,
      if_neg (Ne.symm same), Option.map_map]
    refine Option.map_congr fun ⟨key', stance⟩ live => ?_
    cases stance with
    | fresh | leading => rfl
    | waiting box =>
      have awaited := consistent.awaited other key' box live
      have used := consistent.held other key' box live
      rw [Std.ExtTreeMap.mem_iff_isSome_getElem?] at used
      obtain ⟨found, holds⟩ := Option.isSome_iff_exists.mp used
      simp only [standing, Function.comp_apply, holds, Option.getD_some]
      by_cases listed : flight.Listed key box
      · have home := consistent.home other key' key box live listed
        subst home
        obtain rfl : found = .awaited := by simpa [holds] using awaited.mpr listed
        rw [mailboxes_retire_of_listed _ _ _ _ _ listed, holds]
        simp [Roster.served]
      · rw [mailboxes_retire_of_not_listed _ _ _ _ _ listed, holds, Option.getD_some]
        cases found with
        | awaited =>
          have elsewhere : key' ≠ key := by
            rintro rfl
            exact listed (awaited.mp holds)
          simp [Roster.served, elsewhere]
        | delivered | closed => rfl

/-! ## Actions -/

namespace Seeks

variable (seeks : flight.Seeks call key base)

include seeks

/-- A call that gives up its mailbox is about to stand otherwise. -/
theorem update_roster (consistent : flight.Consistent) (entry : Option (String × Standing α)) :
    Function.update base.roster call entry = Function.update flight.roster call entry := by
  cases seeks with
  | fresh fresh => rfl
  | stranded mailbox waits closed =>
    rw [consistent.roster_leave waits, Function.update_idem]

theorem led_iff (consistent : flight.Consistent) :
    flight.roster.Led key ↔ base.records[key]? ≠ none := by
  rw [consistent.led_iff, seeks.records_eq]

/-- A call that joins was never polled, or its leader was cancelled. -/
theorem step_poll (ready : Option α) :
    flight.roster.step (.poll call ready) = flight.roster.join call key ready := by
  cases seeks with
  | fresh fresh => simp only [Roster.step, roster_of_found fresh, standing]
  | stranded mailbox waits closed => simp only [Roster.step, waits.roster_eq closed]

end Seeks

/-- A turn on a flight is one on its roster. -/
theorem Turn.step_roster {action : Action α} {outcome : Outcome α}
    (turn : flight.Turn action outcome) (consistent : flight.Consistent) :
    flight.roster.step action = (outcome.flight.roster, outcome.answer, outcome.events) := by
  cases turn with
  | creates call key new =>
    simp only [Roster.step, roster_of_missing (getElem?_eq_none new), roster_enter new]
  | taken call key live =>
    have present := Std.ExtTreeMap.mem_iff_isSome_getElem?.mp live
    obtain ⟨⟨key', stance⟩, found⟩ := Option.isSome_iff_exists.mp present
    simp only [Roster.step, roster_of_found found]
  | missing call ready missing => simp only [Roster.step, roster_of_missing missing]
  | waits call ready key mailbox waits empty => simp only [Roster.step, waits.roster_eq empty]
  | receives call ready key mailbox value waits mail =>
    simp only [Roster.step, waits.roster_eq mail, consistent.roster_leave waits]
  | queues call ready key base waiters seeks recorded =>
    have led := (seeks.led_iff consistent).mpr (by simp [recorded])
    rw [seeks.step_poll, Roster.join, if_pos led,
      (seeks.consistent consistent).roster_queue, seeks.update_roster consistent]
  | continues call key leads =>
    simp only [Roster.step, leads.roster_eq, Roster.compute]
    rw [← leads.roster_eq, Function.update_eq_self]
  | finishes call key value leads =>
    simp only [Roster.step, leads.roster_eq, Roster.compute, consistent.roster_retire,
      List.nil_append]
  | starts call key base seeks absent =>
    have vacant := (seeks.led_iff consistent).not.mpr (by simp [absent])
    rw [seeks.step_poll, Roster.join, if_neg vacant, Roster.compute, roster_lead,
      seeks.update_roster consistent]
  | computes call key value base seeks absent =>
    have vacant := (seeks.led_iff consistent).not.mpr (by simp [absent])
    have led := (seeks.consistent consistent).lead seeks.idle absent
    rw [seeks.step_poll, Roster.join, if_neg vacant, Roster.compute, led.roster_retire,
      roster_lead, seeks.update_roster consistent, Roster.retire_update]
    rfl
  | unknown call missing => simp only [Roster.step, roster_of_missing missing]
  | forgets call key fresh =>
    simp only [Roster.step, roster_of_found fresh, standing, roster_forget]
  | abandons call key mailbox waits =>
    simp only [Roster.step, roster_of_found waits, standing, consistent.roster_leave waits]
  | cancels call key leads =>
    simp only [Roster.step, leads.roster_eq, consistent.roster_retire]

/-- What a flight does is determined by its roster. -/
theorem Consistent.step_roster (consistent : flight.Consistent) (action : Action α) :
    flight.roster.step action = ((flight.step action).flight.roster, (flight.step action).answer,
      (flight.step action).events) :=
  (consistent.turn action).step_roster consistent

end Flight

end PeerCache
