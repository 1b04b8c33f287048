import PeerCache.Proofs.Group.Errands

/-! # The books of a group

The counters of a group are raised at different points of a get, which may be cancelled at any of
them. Four kinds of events have no counter of their own: a get of the empty key is turned away, a
get finds its key at the first look or at the second one, and a computation is cancelled after it
has asked for something. The books of a group are its counters, what is outstanding, and a tally of
these events, and every action keeps them balanced.
-/

namespace PeerCache

/-! ## Sizes -/

private theorem size_erase_add {V : Type} (entries : Std.ExtTreeMap Nat V) (number : Nat) :
    (entries.erase number).size + (entries[number]?).isSome.toNat = entries.size := by
  rw [Std.ExtTreeMap.size_erase, Std.ExtTreeMap.contains_eq_isSome_getElem?]
  cases found : entries[number]? with
  | none => rfl
  | some entry =>
    have nonempty : entries.size ≠ 0 := by
      rw [ne_eq, ← Std.ExtTreeMap.eq_empty_iff_size_eq_zero]
      rintro rfl
      simp at found
    simp only [Option.isSome_some, Bool.toNat_true, if_true]
    omega

/-- Maps that agree but for one number differ in size by their entries for it. -/
private theorem size_add_isSome {V : Type} {before after : Std.ExtTreeMap Nat V} {number : Nat}
    (others : ∀ other, number ≠ other → after[other]? = before[other]?) :
    after.size + (before[number]?).isSome.toNat =
      before.size + (after[number]?).isSome.toNat := by
  have same : after.erase number = before.erase number := by
    apply Std.ExtTreeMap.ext_getElem?
    intro other
    simp only [Std.ExtTreeMap.getElem?_erase]
    split
    · rfl
    · next other_ne => exact others other (by simpa using other_ne)
  rw [← size_erase_add after number, ← size_erase_add before number, same]
  omega

namespace Flight

variable {α : Type} {flight next : Flight α} {call : Nat} {key : String}
  {attendance : Attendance α}

private theorem Attends.attend_eq (attends : flight.Attends call (next, attendance)) :
    flight.attend call = (next, attendance) := by
  have joins : ∀ key base, flight.Seeks call key base →
      flight.attend call = base.join call key := by
    intro key base seeks
    cases seeks with
    | fresh fresh => simp only [attend, fresh]
    | stranded mailbox waits closed =>
      rw [← join_leave]
      simp only [attend, show flight.calls[call]? = _ from waits, closed]
  cases attends with
  | missing missing => simp only [attend, missing]
  | leads key leads => simp only [attend, show flight.calls[call]? = _ from leads]
  | waits key mailbox waits empty =>
    simp only [attend, show flight.calls[call]? = _ from waits, empty]
  | receives key mailbox value waits mail =>
    simp only [attend, show flight.calls[call]? = _ from waits, mail]
    rfl
  | starts key base seeks absent => rw [joins key base seeks, join_of_absent absent]
  | queues key base waiters seeks recorded =>
    rw [joins key base seeks, join_of_recorded recorded]

theorem Attends.getElem?_of_ne (attends : flight.Attends call (next, attendance)) {other : Nat}
    (other_ne : call ≠ other) : next.calls[other]? = flight.calls[other]? := by
  cases attends with
  | missing | leads | waits => rfl
  | receives => rw [getElem?_leave, if_neg other_ne]
  | starts key base seeks => rw [getElem?_lead, if_neg other_ne, seeks.getElem?_of_ne other_ne]
  | queues key base waiters seeks =>
    rw [getElem?_queue, if_neg other_ne, seeks.getElem?_of_ne other_ne]

private theorem Attends.size_waiting (attends : flight.Attends call (next, .waiting)) :
    next.calls.size = flight.calls.size := by
  have size := size_add_isSome fun _ => attends.getElem?_of_ne
  cases attends with
  | waits => rfl
  | queues key base waiters seeks =>
    have known := seeks.key?_eq
    rw [key?, Option.map_eq_some_iff] at known
    obtain ⟨found, known, -⟩ := known
    simpa [known, getElem?_queue] using size

private theorem Attends.size_started (attends : flight.Attends call (next, .started)) :
    next.calls.size = flight.calls.size := by
  have size := size_add_isSome fun _ => attends.getElem?_of_ne
  cases attends with
  | starts key base seeks =>
    have known := seeks.key?_eq
    rw [key?, Option.map_eq_some_iff] at known
    obtain ⟨found, known, -⟩ := known
    simpa [known, getElem?_lead] using size

private theorem Attends.size_received {value : α}
    (attends : flight.Attends call (next, .received value)) :
    next.calls.size + 1 = flight.calls.size := by
  have size := size_add_isSome fun _ => attends.getElem?_of_ne
  cases attends with
  | receives key mailbox value waits =>
    simpa [show flight.calls[call]? = _ from waits, getElem?_leave] using size

private theorem Leads.size_conclude (leads : flight.Leads call key) (value : α) :
    (flight.conclude call value).calls.size + 1 = flight.calls.size := by
  have size := size_erase_add flight.calls call
  rw [show flight.calls[call]? = _ from leads] at size
  rw [conclude_of_leads leads]
  exact size

private theorem Consistent.size_drop (consistent : flight.Consistent) (call : Nat) :
    (flight.drop call).calls.size + (flight.calls[call]?).isSome.toNat = flight.calls.size := by
  have turn := consistent.turn (.drop call)
  have others : ∀ other, call ≠ other →
      (flight.drop call).calls[other]? = flight.calls[other]? :=
    fun other other_ne => turn.getElem?_of_ne other_ne
  have gone : (flight.drop call).calls[call]? = none := turn.gone_of_dropped
  simpa [gone] using size_add_isSome others

private theorem size_enter (new : call ∉ flight.calls) (key : String) :
    (flight.enter call key).calls.size = flight.calls.size + 1 := by
  rw [enter, if_neg new, Std.ExtTreeMap.size_insert, if_neg (by simpa using new)]

end Flight

namespace Group

/-- Whether a computation waits for a peer. -/
def Request.isFetch : Request → Bool
  | .fetch _ _ _ => true
  | .load _ => false

/-- How many computations wait for a peer. -/
def fetching (errands : Std.ExtTreeMap Nat Request) : Nat :=
  (errands.filter fun _ request => request.isFetch).size

private theorem fetching_add {before after : Std.ExtTreeMap Nat Request} {call : Nat}
    (others : ∀ other, call ≠ other → after[other]? = before[other]?) :
    fetching after + (before[call]?.filter Request.isFetch).isSome.toNat =
      fetching before + (after[call]?.filter Request.isFetch).isSome.toNat := by
  have kept : ∀ (errands : Std.ExtTreeMap Nat Request) (other : Nat),
      (errands.filter fun _ request => request.isFetch)[other]? =
        errands[other]?.filter Request.isFetch := by
    intro errands other
    rw [Std.ExtTreeMap.getElem?_filter, Option.pfilter_eq_filter]
  rw [← kept, ← kept]
  refine size_add_isSome fun other other_ne => ?_
  rw [kept, kept, others other other_ne]

/-- What happens in a group and has no counter of its own. -/
inductive Event where
  /-- A get of the empty key is turned away. -/
  | rejection
  /-- A get finds its key at the first look. -/
  | firstHit
  /-- A computation finds its key at the second look, when it starts. -/
  | secondHit
  /-- A get is cancelled whose computation has asked for something. -/
  | abandonment
deriving DecidableEq, Repr

/-- Whether a get that goes on in the flight starts a computation now, and finds its key. -/
def hitsAgain (group : Group) (call : Nat) : Bool :=
  match (group.flight.attend call).2 with
  | .started => ((group.flight.key? call).bind group.peek).isSome
  | _ => false

/-- The event that an action is. -/
def event? (group : Group) : Action → Option Event
  | .poll call _ =>
    match group.arrivals[call]? with
    | some key =>
      if key = "" then some .rejection
      else if (group.peek key).isSome then some .firstHit
      else none
    | none => if group.hitsAgain call then some .secondHit else none
  | .drop call => if (group.errands[call]?).isSome then some .abandonment else none
  | _ => none

/-- The counters add up with the events that were seen and with what is outstanding. -/
structure Balanced (group : Group) (tally : Event → Nat) : Prop where
  gets : group.stats.gets = tally .rejection + tally .firstHit + group.stats.loads
  hits : group.stats.cacheHits = tally .firstHit + tally .secondHit
  /-- Of the gets that entered the flight, some are still there, and no two of the others had one
  computation in common. -/
  flying : tally .secondHit + group.stats.loadsDeduped + group.flight.calls.size ≤
    group.stats.loads + group.errands.size
  computed : group.stats.loadsDeduped = group.stats.peerLoads + group.stats.localLoads +
    group.stats.localLoadErrors + tally .abandonment + group.errands.size
  /-- A computation asks one peer at most. -/
  asked : group.stats.peerLoads + group.stats.peerErrors + fetching group.errands ≤
    group.stats.loadsDeduped

/-- The events with the one that an action is. -/
def count (group : Group) (action : Action) (tally : Event → Nat) : Event → Nat :=
  fun event => tally event + if group.event? action = some event then 1 else 0

private theorem count_of_none {group : Group} {action : Action} {tally : Event → Nat}
    (event : group.event? action = none) : group.count action tally = tally := by
  funext other
  simp [count, event]

theorem balanced_create (name : String) (plan : Storage.Plan) :
    (create name plan).Balanced fun _ => 0 := by
  have none : fetching (∅ : Std.ExtTreeMap Nat Request) = 0 := by
    rw [fetching, ← Std.ExtTreeMap.eq_empty_iff_size_eq_zero]
    apply Std.ExtTreeMap.ext_getElem?
    simp [Std.ExtTreeMap.getElem?_filter]
  constructor <;> simp [create, Flight.empty, none]

section Steps

variable {group next : Group} {call : Nat} {key : String} {owner : Option String}
  {progress : Progress} {request : Request} {action : Action} {outcome : Outcome}
  {tally : Event → Nat}

private theorem Sound.unasked (sound : group.Sound) (idle : ∀ key, ¬ group.flight.Leads call key) :
    group.errands[call]? = none := by
  by_contra errand
  obtain ⟨request, errand⟩ := Option.ne_none_iff_exists'.mp errand
  exact idle request.key (sound.leads_of_errand errand)

private theorem hitsAgain_of_attends {flight : Flight GetResult} {attendance : Attendance GetResult}
    (attends : group.flight.Attends call (flight, attendance)) (other : attendance ≠ .started) :
    group.hitsAgain call = false := by
  rw [hitsAgain, attends.attend_eq]
  cases attendance <;> first | rfl | exact absurd rfl other

private theorem hitsAgain_of_started {flight : Flight GetResult}
    (attends : group.flight.Attends call (flight, .started))
    (known : group.flight.key? call = some key) :
    group.hitsAgain call = (group.peek key).isSome := by
  rw [hitsAgain, attends.attend_eq]
  simp only [known, Option.bind_some]

private theorem fetching_erase (group : Group) (call : Nat) :
    fetching (group.errands.erase call) +
        (group.errands[call]?.filter Request.isFetch).isSome.toNat = fetching group.errands := by
  have others : ∀ other, call ≠ other →
      (group.errands.erase call)[other]? = group.errands[other]? :=
    fun other => errand_of_erase_ne
  simpa using fetching_add others

private theorem fetching_insert (group : Group) (call : Nat) (request : Request) :
    fetching (group.errands.insert call request) +
        (group.errands[call]?.filter Request.isFetch).isSome.toNat =
      fetching group.errands + request.isFetch.toNat := by
  have others : ∀ other, call ≠ other →
      (group.errands.insert call request)[other]? = group.errands[other]? :=
    fun other => errand_of_insert_ne
  have asking := fetching_add others
  rw [Std.ExtTreeMap.getElem?_insert_self, Option.filter_some] at asking
  cases fetches : request.isFetch <;> simpa [fetches] using asking

private theorem size_errands_insert (group : Group) (call : Nat) (request : Request) :
    (group.errands.insert call request).size + (group.errands[call]?).isSome.toNat =
      group.errands.size + 1 := by
  have others : ∀ other, call ≠ other →
      (group.errands.insert call request)[other]? = group.errands[other]? :=
    fun other => errand_of_insert_ne
  simpa using size_add_isSome others

private theorem Balanced.proceeds (balanced : group.Balanced tally) (sound : group.Sound)
    (proceeds : Proceeds group call owner next progress) :
    next.Balanced fun event =>
      tally event + if group.hitsAgain call ∧ event = .secondHit then 1 else 0 := by
  obtain ⟨gets, hits, flying, computed, asked⟩ := balanced
  cases proceeds with
  | absent missing =>
    rw [hitsAgain_of_attends (.missing missing) (by simp)]
    exact ⟨gets, hits, flying, computed, asked⟩
  | remains request errand =>
    rw [hitsAgain_of_attends (.leads _ (sound.leads_of_errand errand)) (by simp)]
    exact ⟨gets, hits, flying, computed, asked⟩
  | waits flight attends =>
    rw [hitsAgain_of_attends attends (by simp)]
    have size := attends.size_waiting
    exact ⟨gets, hits, by simpa [size] using flying, computed, asked⟩
  | receives flight result attends =>
    rw [hitsAgain_of_attends attends (by simp)]
    have size := attends.size_received
    exact ⟨gets, hits, by simp; omega, computed, asked⟩
  | hits flight key value attends known stored =>
    rw [hitsAgain_of_started attends known, stored]
    obtain ⟨led, -, leads⟩ := attends.exists_key
    have started := attends.size_started
    have ended := leads.size_conclude (Except.ok value)
    have unasked := sound.unasked fun key => attends.not_leads (by simp)
    have errands := size_erase_add group.errands call
    have asking := group.fetching_erase call
    simp only [unasked, Option.filter_none, Option.isSome_none, Bool.toNat_false] at errands asking
    constructor <;> simp [conclude] <;> omega
  | asks flight key attends known missing =>
    rw [hitsAgain_of_started attends known, missing]
    have started := attends.size_started
    have unasked := sound.unasked fun key => attends.not_leads (by simp)
    have errands := group.size_errands_insert call (group.opening key owner)
    have asking := group.fetching_insert call (group.opening key owner)
    have one := Bool.toNat_le (group.opening key owner).isFetch
    simp only [unasked, Option.filter_none, Option.isSome_none, Bool.toNat_false] at errands asking
    constructor <;> simp [ask] <;> omega

/-- A get that has missed is on the books as one that entered the flight. -/
private theorem Balanced.entered (balanced : group.Balanced tally) (sound : group.Sound)
    (storage : Option Storage) (arrived : group.arrivals[call]? = some key) :
    (group.entered storage call key).Balanced tally := by
  obtain ⟨gets, hits, flying, computed, asked⟩ := balanced
  have missing : call ∉ group.flight.calls := by
    simpa using sound.apart call (by simp [arrived])
  have size := Flight.size_enter missing key
  constructor <;> simp [Group.entered, turnAway] <;> omega

private theorem Balanced.polls (balanced : group.Balanced tally) (sound : group.Sound)
    (polls : Polls group call owner next progress) :
    next.Balanced (group.count (.poll call owner) tally) := by
  cases polls with
  | rejects arrived =>
    have event : group.event? (.poll call owner) = some .rejection := by simp [event?, arrived]
    obtain ⟨gets, hits, flying, computed, asked⟩ := balanced
    constructor <;> simp [count, event, turnAway] <;> omega
  | hits key value storage arrived nonempty stored =>
    have event : group.event? (.poll call owner) = some .firstHit := by
      simp [event?, arrived, nonempty, stored]
    obtain ⟨gets, hits, flying, computed, asked⟩ := balanced
    constructor <;> simp [count, event, turnAway] <;> omega
  | misses key storage next progress arrived nonempty missing admitted peeks proceeds =>
    have event : group.event? (.poll call owner) = none := by
      simp [event?, arrived, nonempty, missing]
    -- what the get did not find at the first look it does not find at the second
    have again : (group.entered storage call key).hitsAgain call = false := by
      have new : call ∉ group.flight.calls := by simpa using sound.apart call (by simp [arrived])
      have known : (group.entered storage call key).flight.key? call = some key := by
        simp [Group.entered, Flight.key?, Flight.getElem?_enter _ _ _ _ new]
      rw [hitsAgain]
      split
      · rw [known, Option.bind_some, peeks, missing]
        rfl
      · rfl
    have balanced := (balanced.entered sound storage arrived).proceeds admitted proceeds
    rw [count_of_none event]
    simpa [again] using balanced
  | resumes next progress unarrived proceeds =>
    have event : group.event? (.poll call owner) =
        if group.hitsAgain call then some .secondHit else none := by simp [event?, unarrived]
    have balanced := balanced.proceeds sound proceeds
    have same : group.count (.poll call owner) tally = fun event =>
        tally event + if group.hitsAgain call ∧ event = .secondHit then 1 else 0 := by
      funext event'
      rw [count, event]
      cases group.hitsAgain call <;> simp [eq_comm]
    rwa [same]

/-- What an answer of a peer comes to, its counters included. -/
theorem cases_of_fetched {result : GetResult}
    (stepped : group.step (.fetched call result) = .ok outcome) :
    outcome.group = group ∨ ∃ peer name key, group.errands[call]? = some (.fetch peer name key) ∧
      ((∃ value, outcome.group = ({ group with
          stats.peerLoads := group.stats.peerLoads + 1 }.conclude call (.ok value)).1) ∨
        outcome.group = ({ group with
          stats.peerErrors := group.stats.peerErrors + 1 }.ask call (.load key)).1) := by
  simp only [step] at stepped
  split at stepped
  case h_2 =>
    cases stepped
    exact .inl rfl
  case h_1 peer name key errand =>
    simp only [fetched, errand] at stepped
    cases result with
    | ok value =>
      cases stepped
      exact .inr ⟨peer, name, key, errand, .inl ⟨value, rfl⟩⟩
    | error cause =>
      cases stepped
      exact .inr ⟨peer, name, key, errand, .inr rfl⟩

theorem cases_of_loaded {result : Except String Bytes}
    (stepped : group.step (.loaded call result) = .ok outcome) :
    outcome.group = group ∨ ∃ key, group.errands[call]? = some (.load key) ∧
      ((∃ storage value, outcome.group = ({ group with
          storage
          stats.localLoads := group.stats.localLoads + 1 }.conclude call (.ok value)).1) ∨
        ∃ text, outcome.group = ({ group with
          stats.localLoadErrors := group.stats.localLoadErrors + 1 }.conclude call
            (.error (.loader text))).1) := by
  simp only [step] at stepped
  split at stepped
  case h_2 =>
    cases stepped
    exact .inl rfl
  case h_1 key errand =>
    simp only [loaded, errand] at stepped
    cases result with
    | ok value =>
      obtain ⟨⟨departures, next, progress⟩, answered, stepped⟩ :=
        Checked.bind_eq_ok_iff.mp stepped
      obtain ⟨⟨left, filled⟩, populated, answered⟩ := Checked.bind_eq_ok_iff.mp answered
      obtain ⟨added, -, populated⟩ := Checked.bind_eq_ok_iff.mp populated
      cases populated
      cases answered
      cases stepped
      exact .inr ⟨key, errand, .inl ⟨some added.2, value, rfl⟩⟩
    | error text =>
      cases stepped
      exact .inr ⟨key, errand, .inr ⟨text, rfl⟩⟩

private theorem Balanced.fetched (balanced : group.Balanced tally) (sound : group.Sound)
    {result : GetResult} (stepped : group.step (.fetched call result) = .ok outcome) :
    outcome.group.Balanced tally := by
  rcases cases_of_fetched stepped with same | ⟨peer, name, key, errand, answered⟩
  · rwa [same]
  · obtain ⟨gets, hits, flying, computed, asked⟩ := balanced
    have one : (group.errands[call]?).isSome.toNat = 1 := by
      rw [errand]
      rfl
    have asking : (group.errands[call]?.filter Request.isFetch).isSome.toNat = 1 := by
      rw [errand]
      rfl
    rcases answered with ⟨value, next⟩ | next
    · have ended := (sound.leads_of_errand errand).size_conclude (Except.ok value)
      have size := size_erase_add group.errands call
      have fewer := group.fetching_erase call
      constructor <;> simp [next, conclude] <;> omega
    · have size := group.size_errands_insert call (.load key)
      have fewer := group.fetching_insert call (.load key)
      have loads : (Request.load key).isFetch.toNat = 0 := rfl
      constructor <;> simp [next, ask] <;> omega

private theorem Balanced.loaded (balanced : group.Balanced tally) (sound : group.Sound)
    {result : Except String Bytes} (stepped : group.step (.loaded call result) = .ok outcome) :
    outcome.group.Balanced tally := by
  rcases cases_of_loaded stepped with same | ⟨key, errand, answered⟩
  · rwa [same]
  · obtain ⟨gets, hits, flying, computed, asked⟩ := balanced
    have leads := sound.leads_of_errand errand
    have one : (group.errands[call]?).isSome.toNat = 1 := by
      rw [errand]
      rfl
    have size := size_erase_add group.errands call
    have fewer := group.fetching_erase call
    rcases answered with ⟨storage, value, next⟩ | ⟨text, next⟩
    · have ended := leads.size_conclude (Except.ok value)
      constructor <;> simp [next, conclude] <;> omega
    · have ended := leads.size_conclude (Except.error (Error.loader text))
      constructor <;> simp [next, conclude] <;> omega

private theorem Balanced.dropped (balanced : group.Balanced tally) (sound : group.Sound)
    (call : Nat) :
    (group.drop call).Balanced (group.count (.drop call) tally) := by
  obtain ⟨gets, hits, flying, computed, asked⟩ := balanced
  have ended := sound.consistent.size_drop call
  have size := size_erase_add group.errands call
  have asking := group.fetching_erase call
  cases errand : group.errands[call]? with
  | none =>
    have event : group.event? (.drop call) = none := by simp [event?, errand]
    simp only [errand, Option.isSome_none, Bool.toNat_false] at size
    constructor <;> simp [count, event, Group.drop] <;> omega
  | some request =>
    have event : group.event? (.drop call) = some .abandonment := by simp [event?, errand]
    have leads := sound.leads_of_errand errand
    rw [show group.flight.calls[call]? = _ from leads] at ended
    simp only [errand, Option.isSome_some, Bool.toNat_true] at size ended
    constructor <;> simp [count, event, Group.drop] <;> omega

/-- Every action keeps the books balanced. -/
theorem Balanced.step (balanced : group.Balanced tally) (sound : group.Sound)
    (stepped : group.step action = .ok outcome) :
    outcome.group.Balanced (group.count action tally) := by
  obtain ⟨gets, hits, flying, computed, asked⟩ := balanced
  cases action with
  | call call key =>
    cases stepped
    rw [count_of_none rfl]
    unfold Group.call
    split <;> exact ⟨gets, hits, flying, computed, asked⟩
  | poll call owner =>
    obtain ⟨⟨next, progress⟩, polled, stepped⟩ := Checked.bind_eq_ok_iff.mp stepped
    cases stepped
    exact Balanced.polls ⟨gets, hits, flying, computed, asked⟩ sound (polls_of_poll sound polled)
  | fetched call result =>
    rw [count_of_none rfl]
    exact Balanced.fetched ⟨gets, hits, flying, computed, asked⟩ sound stepped
  | loaded call result =>
    rw [count_of_none rfl]
    exact Balanced.loaded ⟨gets, hits, flying, computed, asked⟩ sound stepped
  | drop call =>
    cases stepped
    exact Balanced.dropped ⟨gets, hits, flying, computed, asked⟩ sound call
  | registerPeers =>
    rw [count_of_none rfl]
    cases occurs_of_step stepped <;> exact ⟨gets, hits, flying, computed, asked⟩

theorem drop_of_abandonment (sound : group.Sound)
    (event : group.event? action = some .abandonment) :
    ∃ call, action = .drop call ∧ group.isLive call = true := by
  cases action with
  | drop call =>
    simp only [event?] at event
    split at event
    case isTrue errand =>
      obtain ⟨request, errand⟩ := Option.isSome_iff_exists.mp errand
      have leads := sound.leads_of_errand errand
      refine ⟨call, rfl, ?_⟩
      rw [isLive, Bool.or_eq_true, Std.ExtTreeMap.contains_eq_isSome_getElem?,
        Std.ExtTreeMap.contains_eq_isSome_getElem?, show group.flight.calls[call]? = _ from leads]
      exact .inr rfl
    case isFalse => cases event
  | poll call owner =>
    simp only [event?] at event
    split at event <;> split_ifs at event <;> cases event
  | call | fetched | loaded | registerPeers => cases event

theorem calls_eq_empty (idle : ∀ call, group.isLive call = false) : group.flight.calls = ∅ := by
  apply Std.ExtTreeMap.ext_getElem?
  intro call
  have gone := (Bool.or_eq_false_iff.mp (idle call)).2
  rw [Std.ExtTreeMap.contains_eq_isSome_getElem?, Option.isSome_eq_false_iff,
    Option.isNone_iff_eq_none] at gone
  rw [gone, Std.ExtTreeMap.getElem?_empty]

theorem Sound.size_errands_le (sound : group.Sound) :
    group.errands.size ≤ group.flight.calls.size := by
  rw [← Std.ExtTreeMap.length_keys, ← Std.ExtTreeMap.length_keys]
  refine (Std.ExtTreeMap.nodup_keys.subperm ?_).length_le
  intro call member
  rw [Std.ExtTreeMap.mem_keys, Std.ExtTreeMap.mem_iff_isSome_getElem?] at member ⊢
  obtain ⟨request, errand⟩ := Option.isSome_iff_exists.mp member
  rw [show group.flight.calls[call]? = _ from sound.leads_of_errand errand]
  rfl

private theorem Proceeds.hit (proceeds : Proceeds group call owner next progress) :
    next.stats.cacheHits = group.stats.cacheHits ∨
      next.stats.cacheHits = group.stats.cacheHits + 1 ∧
        (∃ value, progress = .finished (.ok value)) ∧
        next.arrivals = group.arrivals ∧ next.flight.calls[call]? = none := by
  cases proceeds with
  | absent | remains | waits | receives | asks => exact .inl rfl
  | hits flight key value attends =>
    obtain ⟨led, -, leads⟩ := attends.exists_key
    refine .inr ⟨rfl, ⟨value, rfl⟩, rfl, ?_⟩
    rw [conclude, Flight.conclude_of_leads leads, Flight.getElem?_retire, if_pos rfl]

private theorem Polls.hit (polls : Polls group call owner next progress) (sound : group.Sound) :
    next.stats.cacheHits = group.stats.cacheHits ∨
      next.stats.cacheHits = group.stats.cacheHits + 1 ∧
        (∃ value, progress = .finished (.ok value)) ∧
        next.arrivals[call]? = none ∧ next.flight.calls[call]? = none := by
  cases polls with
  | rejects => exact .inl rfl
  | hits key value storage arrived =>
    exact .inr ⟨rfl, ⟨value, rfl⟩, Std.ExtTreeMap.getElem?_erase_self,
      sound.apart call (by simp [arrived])⟩
  | misses key storage next progress _ _ _ _ _ proceeds =>
    refine proceeds.hit.imp_right ?_
    rintro ⟨raised, ends, arrivals, gone⟩
    exact ⟨raised, ends, by rw [arrivals]; exact Std.ExtTreeMap.getElem?_erase_self, gone⟩
  | resumes next progress unarrived proceeds =>
    refine proceeds.hit.imp_right ?_
    rintro ⟨raised, ends, arrivals, gone⟩
    exact ⟨raised, ends, by rw [arrivals, unarrived], gone⟩

/-- An action that counts a hit ends a get with a value. -/
theorem hit_of_step (sound : group.Sound) (stepped : group.step action = .ok outcome) :
    outcome.group.stats.cacheHits = group.stats.cacheHits ∨
      outcome.group.stats.cacheHits = group.stats.cacheHits + 1 ∧
        ∃ call value, action.get? = some call ∧ outcome.progress = some (.finished (.ok value)) ∧
          outcome.group.arrivals[call]? = none ∧ outcome.group.flight.calls[call]? = none := by
  cases action with
  | poll call owner =>
    obtain ⟨⟨next, progress⟩, polled, stepped⟩ := Checked.bind_eq_ok_iff.mp stepped
    cases stepped
    refine ((polls_of_poll sound polled).hit sound).imp_right ?_
    rintro ⟨raised, ⟨value, rfl⟩, unarrived, gone⟩
    exact ⟨raised, call, value, rfl, rfl, unarrived, gone⟩
  | call call key =>
    cases stepped
    left
    unfold Group.call
    split <;> rfl
  | drop call =>
    cases stepped
    exact .inl rfl
  | registerPeers =>
    cases occurs_of_step stepped <;> exact .inl rfl
  | fetched call result =>
    rcases cases_of_fetched stepped with same | ⟨peer, name, key, -, ⟨value, next⟩ | next⟩
    · exact .inl (by rw [same])
    · exact .inl (by rw [next]; rfl)
    · exact .inl (by rw [next]; rfl)
  | loaded call result =>
    rcases cases_of_loaded stepped with same | ⟨key, -, ⟨storage, value, next⟩ | ⟨text, next⟩⟩
    · exact .inl (by rw [same])
    · exact .inl (by rw [next]; rfl)
    · exact .inl (by rw [next]; rfl)

end Steps

end Group

end PeerCache
