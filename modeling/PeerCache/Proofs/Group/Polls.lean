import PeerCache.Proofs.Group.Solitude

/-! # What a poll comes to

A poll of a get is its first one, or it goes on in the flight. The first one turns the get away,
answers it from the storage, or lets it enter the flight and goes on there. In the flight the get
waits, finds its mail, remains with what it needs, or starts a computation, which looks into the
storage once more before it asks for anything. All of this is said here once, so that what polls do
to errands, calls and counters can be read off case by case.
-/

namespace PeerCache

/-! ## Calls that do not lead -/

namespace Flight

variable {α : Type} {flight next : Flight α} {call : Nat} {key : String}
  {attendance : Attendance α}

/-- A call that meets anything but its own computation does not lead. -/
theorem Attends.not_leads (attends : flight.Attends call (next, attendance))
    (other : attendance ≠ .leading) : ¬ flight.Leads call key := by
  intro leads
  cases attends with
  | missing missing => simpa using leads.symm.trans missing
  | leads => exact other rfl
  | waits key' mailbox waits => exact leads.not_waits waits
  | receives key' mailbox value waits => exact leads.not_waits waits
  | starts key' base seeks => exact seeks.not_leads leads
  | queues key' base waiters seeks => exact seeks.not_leads leads

theorem Attends.exists_key (attends : flight.Attends call (next, .started)) :
    ∃ key, flight.key? call = some key ∧ next.Leads call key := by
  cases attends with
  | starts key base seeks => exact ⟨key, seeks.key?_eq, by simp [leads_lead]⟩

end Flight

namespace Group

/-- What polling a get that is in the flight comes to. -/
inductive Proceeds (group : Group) (call : Nat) (owner : Option String) : Group → Progress → Prop
  | absent (missing : group.flight.calls[call]? = none) : Proceeds group call owner group .absent
  | remains (request : Request) (errand : group.errands[call]? = some request) :
      Proceeds group call owner group (.remains request)
  | waits (flight : Flight GetResult) (attends : group.flight.Attends call (flight, .waiting)) :
      Proceeds group call owner { group with flight } .waits
  | receives (flight : Flight GetResult) (result : GetResult)
      (attends : group.flight.Attends call (flight, .received result)) :
      Proceeds group call owner { group with flight } (.finished result)
  | hits (flight : Flight GetResult) (key : String) (value : Bytes)
      (attends : group.flight.Attends call (flight, .started))
      (known : group.flight.key? call = some key) (stored : group.peek key = some value) :
      Proceeds group call owner
        ({ group with flight, stats.cacheHits := group.stats.cacheHits + 1 }.conclude call
          (.ok value)).1 (.finished (.ok value))
  | asks (flight : Flight GetResult) (key : String)
      (attends : group.flight.Attends call (flight, .started))
      (known : group.flight.key? call = some key) (missing : group.peek key = none) :
      Proceeds group call owner
        ({ group with flight, stats.loadsDeduped := group.stats.loadsDeduped + 1 }.ask call
          (group.opening key owner)).1 (.asks (group.opening key owner))

/-- What polling a get comes to. -/
inductive Polls (group : Group) (call : Nat) (owner : Option String) : Group → Progress → Prop
  | rejects (arrived : group.arrivals[call]? = some "") :
      Polls group call owner (group.turnAway call) (.finished (.error .invalidKey))
  | hits (key : String) (value : Bytes) (storage : Option Storage)
      (arrived : group.arrivals[call]? = some key) (nonempty : key ≠ "")
      (stored : group.peek key = some value) :
      Polls group call owner
        { group.turnAway call with
          storage
          stats.cacheHits := (group.turnAway call).stats.cacheHits + 1 } (.finished (.ok value))
  | misses (key : String) (storage : Option Storage) (next : Group) (progress : Progress)
      (arrived : group.arrivals[call]? = some key) (nonempty : key ≠ "")
      (missing : group.peek key = none) (sound : (group.entered storage call key).Sound)
      (peeks : ∀ other, (group.entered storage call key).peek other = group.peek other)
      (proceeds : Proceeds (group.entered storage call key) call owner next progress) :
      Polls group call owner next progress
  | resumes (next : Group) (progress : Progress) (unarrived : group.arrivals[call]? = none)
      (proceeds : Proceeds group call owner next progress) : Polls group call owner next progress

variable {group next : Group} {call other : Nat} {key : String} {owner : Option String}
  {progress : Progress} {request : Request}

theorem key_opening (group : Group) (key : String) (owner : Option String) :
    (group.opening key owner).key = key := by
  unfold opening
  cases if group.hasPeers then owner else none <;> rfl

theorem isUnder_opening (group : Group) (key : String) (owner : Option String) :
    (group.opening key owner).IsUnder group.name := by
  unfold opening
  cases if group.hasPeers then owner else none with
  | none => trivial
  | some peer => rfl

private theorem compute_of_missing (flight : Flight GetResult) (missing : group.peek key = none) :
    { group with flight }.compute call key owner =
      { group with flight, stats.loadsDeduped := group.stats.loadsDeduped + 1 }.ask call
        (group.opening key owner) := by
  have missing : ({ group with flight } : Group).peek key = none := missing
  simp only [compute, missing, opening]
  cases if group.hasPeers then owner else none <;> rfl

private theorem compute_of_stored (flight : Flight GetResult) {value : Bytes}
    (stored : group.peek key = some value) :
    { group with flight }.compute call key owner =
      { group with flight, stats.cacheHits := group.stats.cacheHits + 1 }.conclude call
        (.ok value) := by
  have stored : ({ group with flight } : Group).peek key = some value := stored
  simp only [compute, stored]

theorem proceeds_of_pollFlight (sound : group.Sound)
    (answered : group.pollFlight call owner = .ok (next, progress)) :
    Proceeds group call owner next progress := by
  have attends := sound.consistent.attends call
  unfold pollFlight at answered
  rcases attended : group.flight.attend call with ⟨flight, attendance⟩
  rw [attended] at attends
  simp only [attended] at answered
  cases attendance with
  | absent =>
    cases answered
    cases attends with
    | missing missing => exact .absent missing
  | waiting =>
    cases answered
    exact .waits flight attends
  | received result =>
    cases answered
    exact .receives flight result attends
  | leading =>
    obtain rfl : flight = group.flight := by cases attends; rfl
    simp only at answered
    split at answered
    · next request errand =>
      cases answered
      exact .remains request errand
    · cases answered
  | started =>
    obtain ⟨key, known, leads⟩ := attends.exists_key
    simp only [leads.key?_eq, Except.ok.injEq] at answered
    cases stored : group.peek key with
    | none =>
      rw [compute_of_missing flight stored] at answered
      cases answered
      exact .asks flight key attends known stored
    | some value =>
      rw [compute_of_stored flight stored] at answered
      cases answered
      exact .hits flight key value attends known stored

theorem polls_of_poll (sound : group.Sound)
    (polled : group.poll call owner = .ok (next, progress)) :
    Polls group call owner next progress := by
  unfold poll at polled
  split at polled
  case h_2 unarrived =>
    exact .resumes next progress unarrived (proceeds_of_pollFlight sound polled)
  case h_1 key arrived =>
    by_cases nonempty : key = ""
    · subst nonempty
      cases polled
      exact .rejects arrived
    · obtain ⟨storage, looked, stored, peeks⟩ := lookup_ok (sound.turnAway call) key
      rw [begin_eq nonempty looked] at polled
      cases hit : group.peek key with
      | some value =>
        simp only [hit] at polled
        cases polled
        exact .hits key value storage arrived nonempty hit
      | none =>
        simp only [hit] at polled
        have admitted := sound.entered arrived nonempty stored
        exact .misses key storage next progress arrived nonempty hit admitted peeks
          (proceeds_of_pollFlight admitted polled)

end Group

end PeerCache
