import PeerCache.Group.Run
import PeerCache.Proofs.Flight.Effects
import PeerCache.Proofs.Storage.Consistency

/-! # Soundness of a group

A group is sound when its storage is, its flight is consistent, and exactly the leading calls have
an errand, each for the key that it leads and under the name of the group. Looking up, storing,
polling the flight and ending a computation never fault on a sound group and leave it sound. What
polling and ending do to the flight is said in its own terms: each is one action of the flight.
-/

namespace PeerCache.Group

/-- The key that a computation needs something for. -/
def Request.key : Request → String
  | .fetch _ _ key => key
  | .load key => key

/-- The name under which a peer is asked is that of the group. -/
def Request.IsUnder (name : String) : Request → Prop
  | .fetch _ group _ => group = name
  | .load _ => True

/-- What the computations of a group of this name wait for. -/
structure Errands (name : String) (flight : Flight GetResult)
    (errands : Std.ExtTreeMap Nat Request) : Prop where
  /-- The leading calls are those that have errands, each for the key that it leads. -/
  leads : ∀ call key, flight.Leads call key ↔
    ∃ request, errands[call]? = some request ∧ request.key = key
  named : ∀ (call : Nat) (request : Request), errands[call]? = some request → request.IsUnder name

/-- The storage is sound, the flight is consistent, and the leading calls have errands. -/
structure Sound (group : Group) : Prop where
  stored : ∀ storage, group.storage = some storage → storage.Sound
  consistent : group.flight.Consistent
  /-- A call is in the flight only after its first poll. -/
  apart : ∀ call : Nat, group.arrivals[call]? ≠ none → group.flight.calls[call]? = none
  errand : Errands group.name group.flight group.errands
  /-- Gets of the empty key end at their first poll. -/
  keyed : ∀ call, group.flight.key? call ≠ some ""

theorem sound_create (name : String) (plan : Storage.Plan) : (create name plan).Sound where
  stored := by
    intro storage found
    cases found
  consistent := Flight.consistent_empty
  apart := by simp [create]
  errand := ⟨by simp [create, Flight.Leads, Flight.empty], by simp [create]⟩
  keyed := by simp [create, Flight.key?, Flight.empty]

/-! ## The storage of a group -/

/-- Looking up a key answers what is stored and changes no stored value. -/
theorem lookup_ok {group : Group} (sound : group.Sound) (key : String) :
    ∃ storage, group.lookup key = .ok (group.peek key, { group with storage }) ∧
      (∀ found, storage = some found → found.Sound) ∧
      ∀ other, (storage.bind fun found => found.peek other) = group.peek other := by
  cases present : group.storage with
  | none =>
    refine ⟨none, ?_, by simp, by simp [peek, present]⟩
    simp only [lookup, peek, present, Option.bind_none]
    rw [← present]
  | some storage =>
    obtain ⟨tracker, read, sound'⟩ := Storage.get_ok (sound.stored storage present) key
    refine ⟨some { storage with tracker }, ?_, ?_, ?_⟩
    · simp only [lookup, present, read, peek, bind, Except.bind]
      rfl
    · rintro found ⟨⟩
      exact sound'
    · intro other
      simp only [peek, present]
      rfl

/-- Storing a value never faults, and what is stored afterwards was so before or is that value. -/
theorem populate_ok {group : Group} (sound : group.Sound) (key : String) (value : Bytes) :
    ∃ departures storage, group.populate key value =
        .ok (departures, { group with storage := some storage }) ∧ storage.Sound ∧
      ∀ other found, storage.peek other = some found →
        group.peek other = some found ∨ other = key ∧ found = value := by
  have sound' : (group.storage.getD group.plan.build).Sound := by
    cases present : group.storage with
    | none => exact Storage.sound_build group.plan
    | some storage => exact sound.stored storage present
  obtain ⟨departures, storage, added, after, adds⟩ := Storage.add_ok sound' key value
  refine ⟨departures, storage, ?_, after, ?_⟩
  · simp only [populate, added, bind, Except.bind]
    rfl
  · intro other found held
    rw [adds.peek other] at held
    split at held
    · cases held
    · split at held
      case isTrue same => exact .inr ⟨same, by simpa using held.symm⟩
      case isFalse =>
        left
        cases present : group.storage with
        | none => simp [present, Storage.peek, Storage.Plan.build] at held
        | some storage => simpa [peek, present] using held

/-! ## The flight of a group -/

theorem Sound.restock {group : Group} (sound : group.Sound) (storage : Option Storage)
    (stored : ∀ found, storage = some found → found.Sound) (stats : Stats) :
    { group with storage, stats }.Sound :=
  ⟨stored, sound.consistent, sound.apart, sound.errand, sound.keyed⟩

theorem errand_insert {group : Group} (sound : group.Sound) {flight : Flight GetResult} {call : Nat}
    {request : Request}
    (others : ∀ other, call ≠ other → flight.calls[other]? = group.flight.calls[other]?)
    (leads : flight.Leads call request.key) (named : request.IsUnder group.name) :
    Errands group.name flight (group.errands.insert call request) where
  leads := by
    intro other key
    rw [Std.ExtTreeMap.getElem?_insert]
    by_cases same : call = other
    · subst same
      simp only [Std.ReflCmp.compare_self, if_true, Option.some.injEq, exists_eq_left']
      constructor
      · exact leads.key_eq
      · rintro rfl
        exact leads
    · rw [if_neg (by simpa using same), Flight.Leads, others other same]
      exact sound.errand.leads other key
  named := by
    intro other request' errand
    rw [Std.ExtTreeMap.getElem?_insert] at errand
    split at errand
    · rwa [← Option.some.inj errand]
    · exact sound.errand.named other request' errand

theorem errand_erase {group : Group} (sound : group.Sound) {flight : Flight GetResult} {call : Nat}
    (others : ∀ other, call ≠ other → flight.calls[other]? = group.flight.calls[other]?)
    (ended : ∀ key, ¬ flight.Leads call key) :
    Errands group.name flight (group.errands.erase call) where
  leads := by
    intro other key
    rw [Std.ExtTreeMap.getElem?_erase]
    by_cases same : call = other
    · subst same
      simp [ended]
    · rw [if_neg (by simpa using same), Flight.Leads, others other same]
      exact sound.errand.leads other key
  named := by
    intro other request errand
    rw [Std.ExtTreeMap.getElem?_erase] at errand
    split at errand
    · cases errand
    · exact sound.errand.named other request errand

private theorem errand_same {group : Group} (sound : group.Sound)
    {flight : Flight GetResult} {call : Nat}
    (others : ∀ other, call ≠ other → flight.calls[other]? = group.flight.calls[other]?)
    (before : ∀ key, ¬ group.flight.Leads call key) (after : ∀ key, ¬ flight.Leads call key) :
    Errands group.name flight group.errands where
  leads := by
    intro other key
    rw [← sound.errand.leads]
    by_cases same : call = other
    · subst same
      simp [before, after]
    · rw [Flight.Leads, others other same]
      rfl
  named := sound.errand.named

/-- An action on the flight keeps a group sound, if errands are handed out and taken back with
it. -/
theorem Sound.move {group : Group} (sound : group.Sound) (action : Flight.Action GetResult)
    {flight : Flight GetResult} (same : (group.flight.step action).flight = flight)
    (absent : group.arrivals[action.subject]? = none)
    (nonempty : ∀ call, action ≠ .call call "") {errands : Std.ExtTreeMap Nat Request}
    (errand : Errands group.name flight errands) : { group with flight, errands }.Sound := by
  have turn := sound.consistent.turn action
  refine ⟨sound.stored, same ▸ turn.consistent sound.consistent, ?_, errand, ?_⟩
  · intro other arrived
    have other_ne : action.subject ≠ other := by
      rintro rfl
      exact arrived absent
    rw [← same, turn.getElem?_of_ne other_ne]
    exact sound.apart other arrived
  · intro call known
    rw [← same] at known
    rcases turn.key?_origin known with before | created
    · exact sound.keyed call before
    · exact nonempty call created

theorem Sound.depart {group : Group} (sound : group.Sound) (call : Nat) :
    { group with arrivals := group.arrivals.erase call }.Sound := by
  refine ⟨sound.stored, sound.consistent, ?_, sound.errand, sound.keyed⟩
  intro other arrived
  rw [Std.ExtTreeMap.getElem?_erase] at arrived
  split at arrived
  · exact absurd rfl arrived
  · exact sound.apart other arrived

/-- What polling a call in the flight does: the flight is polled, with a computation that returns at
once if the value of its key is stored by now. -/
structure Polled (group : Group) (call : Nat) (ready : Option GetResult) (next : Group)
    (progress : Progress) : Prop where
  sound : next.Sound
  flight : next.flight = (group.flight.poll call ready).flight
  storage : next.storage = group.storage
  arrivals : next.arrivals = group.arrivals
  name : next.name = group.name
  finished : ∀ result, progress = .finished result →
    (group.flight.poll call ready).answer = .returned result
  stocked : ∀ result, ready = some result → ∃ key value, group.flight.key? call = some key ∧
    group.peek key = some value ∧ result = .ok value

private theorem Sound.poll {group : Group} (sound : group.Sound) {call : Nat}
    (absent : group.arrivals[call]? = none) {ready : Option GetResult} {flight : Flight GetResult}
    (same : (group.flight.poll call ready).flight = flight)
    {errands : Std.ExtTreeMap Nat Request} (errand : Errands group.name flight errands) :
    { group with flight, errands }.Sound :=
  sound.move (.poll call ready) same absent (by simp) errand

private theorem Sound.polled_ne {group : Group} (sound : group.Sound) {call : Nat}
    {ready : Option GetResult} {flight : Flight GetResult}
    (same : (group.flight.poll call ready).flight = flight) (other : Nat)
    (other_ne : call ≠ other) :
    flight.calls[other]? = group.flight.calls[other]? :=
  same ▸ (sound.consistent.turn (.poll call ready)).getElem?_of_ne other_ne

/-- A computation that starts returns at once if the value of its key is stored by now, and is given
an errand otherwise. -/
private theorem compute_ok {group : Group} (sound : group.Sound) {call : Nat}
    (absent : group.arrivals[call]? = none) {key : String} {base : Flight GetResult}
    (seeks : group.flight.Seeks call key base)
    (attended : group.flight.attend call = (base.lead call key, .started))
    (owner : Option String) :
    ∃ next progress ready,
      { group with flight := base.lead call key }.compute call key owner = (next, progress) ∧
        Polled group call ready next progress := by
  have leads : (base.lead call key).Leads call key := by simp [Flight.leads_lead]
  simp only [compute]
  cases stored : group.peek key with
  | some value =>
    rw [show ({ group with flight := base.lead call key } : Group).peek key = _ from stored]
    have same : (group.flight.poll call (some (.ok value))).flight =
        (base.lead call key).conclude call (.ok value) := by
      rw [Flight.poll, attended]
      rfl
    have ended : ∀ key', ¬ ((base.lead call key).conclude call (.ok value)).Leads call key' := by
      simp [Flight.conclude_of_leads leads, Flight.leads_retire]
    have errand := errand_erase sound (sound.polled_ne same) ended
    refine ⟨_, .finished (.ok value), some (.ok value), rfl,
      (sound.poll absent same errand).restock _ sound.stored _, same.symm, rfl, rfl, rfl, ?_, ?_⟩
    · rintro result ⟨⟩
      rw [Flight.poll, attended]
      rfl
    · rintro result ⟨⟩
      exact ⟨key, value, seeks.key?_eq, stored, rfl⟩
  | none =>
    rw [show ({ group with flight := base.lead call key } : Group).peek key = _ from stored]
    have same : (group.flight.poll call none).flight = base.lead call key := by
      rw [Flight.poll, attended]
      rfl
    have asks : ∀ request stats, request.key = key → request.IsUnder group.name → Sound { group with
        flight := base.lead call key
        errands := group.errands.insert call request
        stats } := by
      rintro request stats rfl named
      have errand := errand_insert sound (sound.polled_ne same) leads named
      exact (sound.poll absent same errand).restock _ sound.stored stats
    cases if group.hasPeers then owner else none with
    | some peer =>
      exact ⟨_, .asks (.fetch peer group.name key), none, rfl, asks _ _ rfl rfl, same.symm, rfl,
        rfl, rfl, by simp, by simp⟩
    | none =>
      exact ⟨_, .asks (.load key), none, rfl, asks _ _ rfl trivial, same.symm, rfl, rfl, rfl,
        by simp, by simp⟩

/-- Polling a get that is in the flight never faults, and does what a poll of the flight does. -/
theorem pollFlight_ok {group : Group} (sound : group.Sound) {call : Nat}
    (absent : group.arrivals[call]? = none) (owner : Option String) :
    ∃ next progress ready, group.pollFlight call owner = .ok (next, progress) ∧
      Polled group call ready next progress := by
  have attends := sound.consistent.attends call
  unfold pollFlight
  rcases attended : group.flight.attend call with ⟨flight, attendance⟩
  rw [attended] at attends
  cases attends with
  | missing missing =>
    refine ⟨group, .absent, none, rfl, sound, ?_, rfl, rfl, rfl, by simp, by simp⟩
    rw [Flight.poll, attended]
  | leads key leads =>
    obtain ⟨request, found, -⟩ := (sound.errand.leads call key).mp leads
    refine ⟨group, .remains request, none, ?_, sound, ?_, rfl, rfl, rfl, by simp, by simp⟩
    · simp only [found]
    · rw [Flight.poll, attended]
      rfl
  | waits key mailbox waits empty =>
    refine ⟨group, .waits, none, rfl, sound, ?_, rfl, rfl, rfl, by simp, by simp⟩
    rw [Flight.poll, attended]
  | receives key mailbox value waits mail =>
    have same : (group.flight.poll call none).flight = group.flight.leave call mailbox := by
      rw [Flight.poll, attended]
    have errand := errand_same sound (sound.polled_ne same) (fun key leads => leads.not_waits waits)
      (by simp [Flight.leads_leave])
    refine ⟨_, .finished value, none, rfl, sound.poll absent same errand, same.symm, rfl, rfl, rfl,
      ?_, by simp⟩
    rintro result ⟨⟩
    rw [Flight.poll, attended]
  | queues key base waiters seeks recorded =>
    have same : (group.flight.poll call none).flight = base.queue call key waiters := by
      rw [Flight.poll, attended]
    have errand := errand_same sound (sound.polled_ne same) (fun key => seeks.not_leads)
      (by simp [Flight.leads_queue])
    exact ⟨_, .waits, none, rfl, sound.poll absent same errand, same.symm, rfl, rfl, rfl,
      by simp, by simp⟩
  | starts key base seeks vacant =>
    have known : (base.lead call key).key? call = some key := by
      simp [Flight.key?, Flight.getElem?_lead]
    obtain ⟨next, progress, ready, computed, polled⟩ :=
      compute_ok sound absent seeks attended owner
    exact ⟨next, progress, ready, by simp only [known, computed], polled⟩

/-! ## Results on their way -/

/-- Whatever calls and mail there are after a change were there before, up to mail that was given to
the waiting calls of a key. -/
structure Carries (before after : Flight GetResult) (gives : String → GetResult → Prop) : Prop where
  key : ∀ call key, after.key? call = some key → before.key? call = some key
  mail : ∀ call key mailbox result, after.Waits call key mailbox →
    after.mailboxes[mailbox]? = some (.delivered result) →
    before.Waits call key mailbox ∧
      (before.mailboxes[mailbox]? = some (.delivered result) ∨ gives key result)

/-- An action that creates no call gives the value of the computation that returns with it. -/
theorem carries_of_turn {flight : Flight GetResult} (consistent : flight.Consistent)
    (action : Flight.Action GetResult) (creates_none : ∀ call key, action ≠ .call call key)
    {gives : String → GetResult → Prop}
    (given : ∀ leader key result, flight.Leads leader key →
      action = .poll leader (some result) → gives key result) :
    Carries flight (flight.step action).flight gives where
  key := by
    intro call key known
    rcases (consistent.turn action).key?_origin known with before | created
    · exact before
    · exact absurd created (creates_none call key)
  mail := by
    intro call key mailbox result waits mail
    obtain ⟨waited, origin⟩ := (consistent.turn action).mail_origin consistent waits mail
    refine ⟨waited, origin.imp_right ?_⟩
    rintro ⟨leader, leads, finished⟩
    exact given leader key result leads ((consistent.turn action).answer_of_finished finished).1

theorem Polled.carries {group next : Group} {call : Nat} {ready : Option GetResult}
    {progress : Progress} (polled : Polled group call ready next progress) (sound : group.Sound) :
    Carries group.flight next.flight fun key result =>
      ∃ value, group.peek key = some value ∧ result = .ok value := by
  rw [polled.flight]
  refine carries_of_turn sound.consistent (.poll call ready) (by simp) ?_
  rintro leader key result leads ⟨⟩
  obtain ⟨key', value, known, stored, rfl⟩ := polled.stocked result rfl
  obtain rfl : key' = key := by simpa using known.symm.trans leads.key?_eq
  exact ⟨value, stored, rfl⟩

/-- A poll ends a call with mail that was there, or with a stored value of its key. -/
theorem Polled.result {group next : Group} {call : Nat} {ready : Option GetResult}
    {result : GetResult} (polled : Polled group call ready next (.finished result))
    (sound : group.Sound) :
    ∃ key, group.flight.key? call = some key ∧
      ((∃ mailbox, group.flight.Waits call key mailbox ∧
          group.flight.mailboxes[mailbox]? = some (.delivered result)) ∨
        ∃ value, group.peek key = some value ∧ result = .ok value) := by
  have turn := sound.consistent.turn (.poll call ready)
  rcases turn.returned (polled.finished result rfl) with
    ⟨finished, -⟩ | ⟨-, key, mailbox, waits, mail⟩
  · obtain ⟨same, -⟩ := turn.answer_of_finished finished
    simp only [Flight.Action.poll.injEq] at same
    obtain ⟨key, value, known, stored, rfl⟩ := polled.stocked result same.2
    exact ⟨key, known, .inr ⟨value, stored, rfl⟩⟩
  · exact ⟨key, waits.key?_eq, .inl ⟨mailbox, waits, mail⟩⟩

theorem Sound.arrived_of_leads {group : Group} (sound : group.Sound) {call : Nat} {key : String}
    (leads : group.flight.Leads call key) : group.arrivals[call]? = none := by
  by_contra arrived
  simpa using leads.symm.trans (sound.apart call arrived)

private theorem step_poll_of_leads {group : Group} {call : Nat} {key : String}
    (leads : group.flight.Leads call key) (result : GetResult) :
    (group.flight.step (.poll call (some result))).flight = group.flight.conclude call result := by
  rw [Flight.step, Flight.poll, Flight.attend, show group.flight.calls[call]? = _ from leads]
  rfl

/-- A computation that returns leaves the group sound and gives its result to those that wait. -/
theorem conclude_ok {group : Group} (sound : group.Sound) {call : Nat} {key : String}
    (leads : group.flight.Leads call key) (result : GetResult) :
    (group.conclude call result).1.Sound ∧
      Carries group.flight (group.flight.conclude call result) fun key' found =>
        key' = key ∧ found = result := by
  have same := step_poll_of_leads leads result
  have turn := sound.consistent.turn (.poll call (some result))
  have others : ∀ other, call ≠ other →
      (group.flight.conclude call result).calls[other]? = group.flight.calls[other]? := by
    intro other other_ne
    rw [← same]
    exact turn.getElem?_of_ne other_ne
  have ended : ∀ key', ¬ (group.flight.conclude call result).Leads call key' := by
    simp [Flight.conclude_of_leads leads, Flight.leads_retire]
  constructor
  · exact sound.move _ same (sound.arrived_of_leads leads) (by simp)
      (errand_erase sound others ended)
  · rw [← same]
    refine carries_of_turn sound.consistent _ (by simp) ?_
    rintro leader key' found leads' ⟨⟩
    exact ⟨leads'.key_eq leads, rfl⟩

end PeerCache.Group
