import PeerCache.Proofs.Group.Soundness

/-! # What an action does to a group

What an action can do to the stored values, to the calls and to their mail, and with which results
it can end a get, is said here once, and the provenance of results is built from it. No action on a
sound group faults, and none leaves it unsound.
-/

namespace PeerCache.Group

/-- The get that an action is about. -/
def Action.get? : Action → Option Nat
  | .call number _ => some number
  | .poll number _ => some number
  | .fetched number _ => some number
  | .loaded number _ => some number
  | .drop number => some number
  | .registerPeers => none

/-- What an action comes to: which operation it is on the group, and what it finds there. An answer
that no computation waits for and a second registration come to nothing. -/
inductive Occurs (group : Group) : Action → Outcome → Prop
  | calls (call : Nat) (key : String) :
      Occurs group (.call call key) ⟨group.call call key, none, []⟩
  | begins (call : Nat) (owner : Option String) (key : String) (next : Group) (progress : Progress)
      (arrived : group.arrivals[call]? = some key)
      (begun : group.begin call key owner = .ok (next, progress)) :
      Occurs group (.poll call owner) ⟨next, some progress, []⟩
  | resumes (call : Nat) (owner : Option String) (next : Group) (progress : Progress)
      (unarrived : group.arrivals[call]? = none)
      (answered : group.pollFlight call owner = .ok (next, progress)) :
      Occurs group (.poll call owner) ⟨next, some progress, []⟩
  | fetches (call : Nat) (peer name key : String) (value : Bytes) (stats : Stats)
      (errand : group.errands[call]? = some (.fetch peer name key)) :
      Occurs group (.fetched call (.ok value))
        ⟨({ group with stats }.conclude call (.ok value)).1, some (.finished (.ok value)), []⟩
  | turns (call : Nat) (peer name key : String) (cause : Error) (stats : Stats)
      (errand : group.errands[call]? = some (.fetch peer name key)) :
      Occurs group (.fetched call (.error cause))
        ⟨({ group with stats }.ask call (.load key)).1, some (.asks (.load key)), []⟩
  | loads (call : Nat) (key : String) (value : Bytes) (stats : Stats)
      (departures : List Departure) (filled : Group)
      (errand : group.errands[call]? = some (.load key))
      (populated : { group with stats }.populate key value = .ok (departures, filled)) :
      Occurs group (.loaded call (.ok value))
        ⟨(filled.conclude call (.ok value)).1, some (.finished (.ok value)), departures⟩
  | fails (call : Nat) (key text : String) (stats : Stats)
      (errand : group.errands[call]? = some (.load key)) :
      Occurs group (.loaded call (.error text))
        ⟨({ group with stats }.conclude call (.error (.loader text))).1,
          some (.finished (.error (.loader text))), []⟩
  | unfetched (call : Nat) (result : GetResult)
      (unasked : ∀ peer name key, group.errands[call]? ≠ some (.fetch peer name key)) :
      Occurs group (.fetched call result) ⟨group, none, []⟩
  | unloaded (call : Nat) (result : Except String Bytes)
      (unasked : ∀ key, group.errands[call]? ≠ some (.load key)) :
      Occurs group (.loaded call result) ⟨group, none, []⟩
  | drops (call : Nat) : Occurs group (.drop call) ⟨group.drop call, none, []⟩
  | registers : Occurs group .registerPeers ⟨{ group with hasPeers := true }, none, []⟩
  | registered : Occurs group .registerPeers ⟨group, none, []⟩

theorem occurs_of_step {group : Group} {action : Action} {outcome : Outcome}
    (stepped : group.step action = .ok outcome) : Occurs group action outcome := by
  cases action with
  | call call key =>
    cases stepped
    exact .calls call key
  | drop call =>
    cases stepped
    exact .drops call
  | registerPeers =>
    simp only [step, registerPeers] at stepped
    split at stepped
    case h_1 registers =>
      cases stepped
      split at registers
      · cases registers
      · cases registers
        exact .registers
    case h_2 =>
      cases stepped
      exact .registered
  | poll call owner =>
    obtain ⟨⟨next, progress⟩, polled, stepped⟩ := Checked.bind_eq_ok_iff.mp stepped
    cases stepped
    unfold poll at polled
    split at polled
    case h_1 key arrived => exact .begins call owner key next progress arrived polled
    case h_2 unarrived => exact .resumes call owner next progress unarrived polled
  | fetched call result =>
    simp only [step] at stepped
    split at stepped
    case h_1 peer name key errand =>
      simp only [fetched, errand] at stepped
      cases result with
      | ok value =>
        cases stepped
        exact .fetches call peer name key value _ errand
      | error cause =>
        cases stepped
        exact .turns call peer name key cause _ errand
    case h_2 unasked =>
      cases stepped
      exact .unfetched call result unasked
  | loaded call result =>
    simp only [step] at stepped
    split at stepped
    case h_1 key errand =>
      simp only [loaded, errand] at stepped
      cases result with
      | ok value =>
        obtain ⟨⟨departures, next, progress⟩, answered, stepped⟩ :=
          Checked.bind_eq_ok_iff.mp stepped
        obtain ⟨⟨left, filled⟩, populated, answered⟩ := Checked.bind_eq_ok_iff.mp answered
        cases answered
        cases stepped
        exact .loads call key value _ left filled errand populated
      | error text =>
        cases stepped
        exact .fails call key text _ errand
    case h_2 unasked =>
      cases stepped
      exact .unloaded call result unasked

/-- With which results an action can end a computation of a key: with a stored value, with what a
peer sent for the key, or with what the loader gave for it, but not with the error of a peer. -/
inductive Concludes (group : Group) (key : String) : Action → GetResult → Prop
  | stored (action : Action) (value : Bytes) (stored : group.peek key = some value) :
      Concludes group key action (.ok value)
  | fetched (call : Nat) (peer name : String) (value : Bytes)
      (errand : group.errands[call]? = some (.fetch peer name key)) :
      Concludes group key (.fetched call (.ok value)) (.ok value)
  | loaded (call : Nat) (value : Bytes) (errand : group.errands[call]? = some (.load key)) :
      Concludes group key (.loaded call (.ok value)) (.ok value)
  | failed (call : Nat) (text : String) (errand : group.errands[call]? = some (.load key)) :
      Concludes group key (.loaded call (.error text)) (.error (.loader text))

/-- The get of this key was in the flight, or enters it now. -/
def Pursues (group : Group) (action : Action) (call : Nat) (key : String) : Prop :=
  group.flight.key? call = some key ∨
    key ≠ "" ∧ group.arrivals[call]? = some key ∧ ∃ owner, action = .poll call owner

/-- How an action can end a get of the key: with the result of a computation that ends now, or with
mail. -/
def Resolves (group : Group) (action : Action) (call : Nat) (key : String) (result : GetResult) :
    Prop :=
  Concludes group key action result ∨ ∃ mailbox, group.flight.Waits call key mailbox ∧
    group.flight.mailboxes[mailbox]? = some (.delivered result)

/-- The group in which a get of the empty key has been turned away: it has left, and was counted. -/
def turnAway (group : Group) (call : Nat) : Group :=
  { group with
    arrivals := group.arrivals.erase call
    stats.gets := group.stats.gets + 1 }

/-- What an action on a group can do. -/
structure Advances (group : Group) (action : Action) (outcome : Outcome) : Prop where
  sound : outcome.group.Sound
  name : outcome.group.name = group.name
  /-- Only what the loader gave for a key comes to be stored for it. -/
  stored : ∀ key value, outcome.group.peek key = some value → group.peek key = some value ∨
    ∃ call, action = .loaded call (.ok value) ∧ group.errands[call]? = some (.load key)
  arrivals : ∀ (call : Nat) (key : String), outcome.group.arrivals[call]? = some key →
    group.arrivals[call]? = some key ∨ action = .call call key ∧ group.isLive call = false
  calls : ∀ call key, outcome.group.flight.key? call = some key → Pursues group action call key
  mail : ∀ call key mailbox result, outcome.group.flight.Waits call key mailbox →
    outcome.group.flight.mailboxes[mailbox]? = some (.delivered result) →
    group.flight.Waits call key mailbox ∧
      (group.flight.mailboxes[mailbox]? = some (.delivered result) ∨
        Concludes group key action result)
  finished : ∀ result, outcome.progress = some (.finished result) →
    ∃ call key, action.get? = some call ∧
      ((∃ owner, action = .poll call owner ∧ group.arrivals[call]? = some key ∧ key = "" ∧
          result = .error .invalidKey ∧ outcome.group = group.turnAway call) ∨
        Pursues group action call key ∧ Resolves group action call key result)

private theorem advances_same {group : Group} (sound : group.Sound) (action : Action) :
    Advances group action ⟨group, none, []⟩ :=
  ⟨sound, rfl, fun _ _ => .inl, fun _ _ => .inl, fun _ _ => .inl,
    fun _ _ _ _ waits mail => ⟨waits, .inl mail⟩, by simp⟩

/-- A change of the flight that creates no calls, together with one of the rest of the group. -/
private theorem advances_of_carries {group next : Group} {action : Action}
    {progress : Option Progress} {departures : List Departure}
    {gives : String → GetResult → Prop} (sound : next.Sound) (name : next.name = group.name)
    (stored : ∀ key value, next.peek key = some value → group.peek key = some value ∨
      ∃ call, action = .loaded call (.ok value) ∧ group.errands[call]? = some (.load key))
    (arrivals : ∀ (call : Nat) (key : String), next.arrivals[call]? = some key →
      group.arrivals[call]? = some key)
    (carries : Carries group.flight next.flight gives)
    (given : ∀ key result, gives key result → Concludes group key action result)
    (finished : ∀ result, progress = some (.finished result) → ∃ call key,
      action.get? = some call ∧ Pursues group action call key ∧
        Resolves group action call key result) :
    Advances group action ⟨next, progress, departures⟩ where
  sound := sound
  name := name
  stored := stored
  arrivals call key arrived := .inl (arrivals call key arrived)
  calls call key known := .inl (carries.key call key known)
  mail := by
    intro call key mailbox result waits mail
    obtain ⟨waited, origin⟩ := carries.mail call key mailbox result waits mail
    exact ⟨waited, origin.imp_right (given key result)⟩
  finished := by
    intro result ends
    obtain ⟨call, key, about, pursues, resolves⟩ := finished result ends
    exact ⟨call, key, about, .inr ⟨pursues, resolves⟩⟩

theorem call_ok {group : Group} (sound : group.Sound) (call : Nat) (key : String) :
    Advances group (.call call key) ⟨group.call call key, none, []⟩ := by
  unfold Group.call
  cases live : group.isLive call with
  | true => exact advances_same sound _
  | false =>
    simp only [isLive, Bool.or_eq_false_iff] at live
    have absent : group.flight.calls[call]? = none := by
      rw [← Option.isNone_iff_eq_none, ← Option.isSome_eq_false_iff,
        ← Std.ExtTreeMap.contains_eq_isSome_getElem?]
      exact live.2
    have arrived : ∀ (other : Nat) (found : String),
        (group.arrivals.insert call key)[other]? = some found →
          other = call ∧ found = key ∨ group.arrivals[other]? = some found := by
      intro other found arrives
      rw [Std.ExtTreeMap.getElem?_insert] at arrives
      split at arrives
      case isTrue same =>
        have same : call = other := by simpa using same
        exact .inl ⟨same.symm, by simpa using arrives.symm⟩
      case isFalse => exact .inr arrives
    refine ⟨⟨sound.stored, sound.consistent, ?_, sound.errand, sound.keyed⟩, rfl,
      fun _ _ => .inl, ?_, fun _ _ => .inl, fun _ _ _ _ waits mail => ⟨waits, .inl mail⟩, by simp⟩
    · intro other arrives
      obtain ⟨found, arrives⟩ := Option.ne_none_iff_exists'.mp arrives
      rcases arrived other found arrives with ⟨rfl, -⟩ | before
      · exact absent
      · exact sound.apart other (by simp [before])
    · intro other found arrives
      rcases arrived other found arrives with ⟨rfl, rfl⟩ | before
      · exact .inr ⟨rfl, by simp [isLive, live]⟩
      · exact .inl before

private theorem registerPeers_ok {group : Group} (sound : group.Sound) :
    ∃ outcome, group.step .registerPeers = .ok outcome ∧ Advances group .registerPeers outcome := by
  simp only [step, registerPeers]
  split
  case h_1 next registered =>
    split at registered
    · cases registered
    · obtain rfl : { group with hasPeers := true } = next := by simpa using registered
      refine ⟨_, rfl, ⟨sound.stored, sound.consistent, sound.apart, sound.errand, sound.keyed⟩, rfl,
        fun _ _ => .inl, fun _ _ => .inl, fun _ _ => .inl,
        fun _ _ _ _ waits mail => ⟨waits, .inl mail⟩, by simp⟩
  case h_2 => exact ⟨_, rfl, advances_same sound _⟩

private theorem arrived_of_erase {group : Group} {call other : Nat} {key : String}
    (arrived : (group.arrivals.erase call)[other]? = some key) :
    group.arrivals[other]? = some key := by
  rw [Std.ExtTreeMap.getElem?_erase] at arrived
  split at arrived
  · cases arrived
  · exact arrived

private theorem drop_ok {group : Group} (sound : group.Sound) (call : Nat) :
    Advances group (.drop call) ⟨group.drop call, none, []⟩ := by
  have turn := sound.consistent.turn (.drop call)
  have ended : ∀ key, ¬ (group.flight.drop call).Leads call key := by
    intro key leads
    exact absurd (leads.symm.trans turn.gone_of_dropped) (by simp)
  have errand := errand_erase sound (fun other other_ne => turn.getElem?_of_ne other_ne) ended
  have next : (group.drop call).Sound :=
    (sound.depart call).move (.drop call) rfl (by simp) (by simp) errand
  have carries : Carries group.flight (group.flight.drop call) fun _ _ => False :=
    carries_of_turn sound.consistent (.drop call) (by simp) (by simp)
  exact advances_of_carries next rfl (fun _ _ => .inl) (fun _ _ => arrived_of_erase) carries
    (fun _ _ never => never.elim) (by simp)

private theorem fetched_ok {group : Group} (sound : group.Sound) (call : Nat) (result : GetResult) :
    ∃ outcome, group.step (.fetched call result) = .ok outcome ∧
      Advances group (.fetched call result) outcome := by
  simp only [step]
  split
  case h_2 => exact ⟨_, rfl, advances_same sound _⟩
  case h_1 peer name key errand =>
    have leads := (sound.errand.leads call key).mpr ⟨_, errand, rfl⟩
    cases result with
    | ok value =>
      have counted := sound.restock _ sound.stored
        { group.stats with peerLoads := group.stats.peerLoads + 1 }
      obtain ⟨next, carries⟩ := conclude_ok counted leads (.ok value)
      refine ⟨_, by simp only [fetched, errand]; rfl, ?_⟩
      refine advances_of_carries next rfl (fun _ _ => .inl) (fun _ _ => id) carries ?_ ?_
      · rintro _ _ ⟨rfl, rfl⟩
        exact .fetched call peer name value errand
      · rintro result ⟨⟩
        exact ⟨call, key, rfl, .inl leads.key?_eq, .inl (.fetched call peer name value errand)⟩
    | error error =>
      have errands := errand_insert sound (fun _ _ => rfl) (show group.flight.Leads call
        (Request.load key).key from leads) trivial
      have next : ({ group with stats.peerErrors := group.stats.peerErrors + 1 }.ask call
          (.load key)).1.Sound :=
        ⟨sound.stored, sound.consistent, sound.apart, errands, sound.keyed⟩
      refine ⟨_, by simp only [fetched, errand]; rfl, ?_⟩
      exact ⟨next, rfl, fun _ _ => .inl, fun _ _ => .inl, fun _ _ => .inl,
        fun _ _ _ _ waits mail => ⟨waits, .inl mail⟩, by simp [ask]⟩

private theorem loaded_ok {group : Group} (sound : group.Sound) (call : Nat)
    (result : Except String Bytes) :
    ∃ outcome, group.step (.loaded call result) = .ok outcome ∧
      Advances group (.loaded call result) outcome := by
  simp only [step]
  split
  case h_2 => exact ⟨_, rfl, advances_same sound _⟩
  case h_1 key errand =>
    have leads := (sound.errand.leads call key).mpr ⟨_, errand, rfl⟩
    cases result with
    | ok value =>
      have counted := sound.restock _ sound.stored
        { group.stats with localLoads := group.stats.localLoads + 1 }
      obtain ⟨departures, storage, populated, after, stored⟩ := populate_ok counted key value
      let filled : Group := { group with
        storage := some storage
        stats.localLoads := group.stats.localLoads + 1 }
      have sound' : filled.Sound := counted.restock _ (by rintro found ⟨⟩; exact after) _
      obtain ⟨next, carries⟩ := conclude_ok sound' leads (.ok value)
      refine
        ⟨⟨(filled.conclude call (.ok value)).1, some (.finished (.ok value)), departures⟩, ?_, ?_⟩
      · simp only [loaded, errand, populated, bind, Except.bind]
        rfl
      · refine advances_of_carries next rfl ?_ (fun _ _ => id) carries ?_ ?_
        · intro other found held
          rcases stored other found held with before | ⟨rfl, rfl⟩
          · exact .inl before
          · exact .inr ⟨call, rfl, errand⟩
        · rintro _ _ ⟨rfl, rfl⟩
          exact .loaded call value errand
        · rintro result ⟨⟩
          exact ⟨call, key, rfl, .inl leads.key?_eq, .inl (.loaded call value errand)⟩
    | error text =>
      have counted := sound.restock _ sound.stored
        { group.stats with localLoadErrors := group.stats.localLoadErrors + 1 }
      obtain ⟨next, carries⟩ := conclude_ok counted leads (.error (.loader text))
      refine ⟨_, by simp only [loaded, errand]; rfl, ?_⟩
      refine advances_of_carries next rfl (fun _ _ => .inl) (fun _ _ => id) carries ?_ ?_
      · rintro _ _ ⟨rfl, rfl⟩
        exact .failed call text errand
      · rintro result ⟨⟩
        exact ⟨call, key, rfl, .inl leads.key?_eq, .inl (.failed call text errand)⟩

private theorem resume_ok {group : Group} (sound : group.Sound) {call : Nat}
    (absent : group.arrivals[call]? = none) (owner : Option String) :
    ∃ next progress, group.pollFlight call owner = .ok (next, progress) ∧
      Advances group (.poll call owner) ⟨next, some progress, []⟩ := by
  obtain ⟨next, progress, ready, answered, polled⟩ := pollFlight_ok sound absent owner
  have peeks : ∀ key, next.peek key = group.peek key := by simp [peek, polled.storage]
  refine ⟨next, progress, answered, ?_⟩
  refine advances_of_carries polled.sound polled.name ?_ ?_ (polled.carries sound) ?_ ?_
  · intro key value stored
    exact .inl ((peeks key).symm.trans stored)
  · intro other key arrived
    rwa [polled.arrivals] at arrived
  · rintro key _ ⟨value, stored, rfl⟩
    exact .stored _ value stored
  · rintro result ⟨⟩
    obtain ⟨key, known, mail | ⟨value, stored, rfl⟩⟩ := polled.result sound
    · exact ⟨call, key, rfl, .inl known, .inr mail⟩
    · exact ⟨call, key, rfl, .inl known, .inl (.stored _ value stored)⟩

private theorem Sound.enter {group : Group} (sound : group.Sound) {call : Nat} {key : String}
    (absent : group.arrivals[call]? = none) (missing : group.flight.calls[call]? = none)
    (nonempty : key ≠ "") : { group with flight := group.flight.enter call key }.Sound := by
  have new : call ∉ group.flight.calls := by simpa using missing
  have errand : Errands group.name (group.flight.enter call key) group.errands := by
    refine ⟨fun other key' => ?_, sound.errand.named⟩
    rw [Flight.leads_enter new]
    exact sound.errand.leads other key'
  refine sound.move (.call call key) rfl absent ?_ errand
  rintro other ⟨⟩
  exact nonempty rfl

/-! ## First polls -/

/-- The group in which a get has missed: it has left the arrivals and entered the flight. -/
def entered (group : Group) (storage : Option Storage) (call : Nat) (key : String) : Group :=
  { group.turnAway call with
    storage
    stats.loads := (group.turnAway call).stats.loads + 1
    flight := group.flight.enter call key }

section Begin

variable {group : Group} {call : Nat} {key : String} {owner : Option String}
  {storage : Option Storage}

theorem Sound.turnAway (sound : group.Sound) (call : Nat) : (group.turnAway call).Sound :=
  (sound.depart call).restock _ sound.stored _

private theorem pursues_of_arrived (arrived : group.arrivals[call]? = some key)
    (nonempty : key ≠ "") :
    Pursues group (.poll call owner) call key :=
  .inr ⟨nonempty, arrived, owner, rfl⟩

private theorem reject_ok (sound : group.Sound) (arrived : group.arrivals[call]? = some "") :
    Advances group (.poll call owner)
      ⟨group.turnAway call, some (.finished (.error .invalidKey)), []⟩ := by
  refine ⟨sound.turnAway call, rfl, fun _ _ => .inl,
    fun _ _ arrived => .inl (arrived_of_erase arrived), fun _ _ => .inl,
    fun _ _ _ _ waits mail => ⟨waits, .inl mail⟩, ?_⟩
  rintro result ⟨⟩
  exact ⟨call, "", rfl, .inl ⟨owner, rfl, arrived, rfl, rfl, rfl⟩⟩

private theorem hit_ok (sound : group.Sound) (arrived : group.arrivals[call]? = some key)
    (nonempty : key ≠ "") {value : Bytes} (hit : group.peek key = some value)
    (stored : ∀ found, storage = some found → found.Sound)
    (peeks : ∀ other, (storage.bind fun found => found.peek other) = group.peek other)
    (stats : Stats) :
    Advances group (.poll call owner)
      ⟨{ group.turnAway call with storage, stats }, some (.finished (.ok value)), []⟩ := by
  refine ⟨(sound.turnAway call).restock _ stored _, rfl, ?_,
    fun _ _ arrived => .inl (arrived_of_erase arrived), fun _ _ => .inl,
    fun _ _ _ _ waits mail => ⟨waits, .inl mail⟩, ?_⟩
  · intro other found held
    exact .inl ((peeks other).symm.trans held)
  · rintro result ⟨⟩
    exact ⟨call, key, rfl,
      .inr ⟨pursues_of_arrived arrived nonempty, .inl (.stored _ value hit)⟩⟩

theorem Sound.entered (sound : group.Sound) (arrived : group.arrivals[call]? = some key)
    (nonempty : key ≠ "") (stored : ∀ found, storage = some found → found.Sound) :
    (group.entered storage call key).Sound := by
  have missing := sound.apart call (by simp [arrived])
  have left : (group.turnAway call).arrivals[call]? = none := by simp [Group.turnAway]
  exact ((sound.turnAway call).enter left missing nonempty).restock _ stored _

private theorem miss_ok (sound : group.Sound) (arrived : group.arrivals[call]? = some key)
    (nonempty : key ≠ "") (stored : ∀ found, storage = some found → found.Sound)
    (peeks : ∀ other, (storage.bind fun found => found.peek other) = group.peek other)
    {ready : Option GetResult} {next : Group} {progress : Progress}
    (polled : Polled (group.entered storage call key) call ready next progress) :
    Advances group (.poll call owner) ⟨next, some progress, []⟩ := by
  have missing := sound.apart call (by simp [arrived])
  have new : call ∉ group.flight.calls := by simpa using missing
  have admitted := sound.entered arrived nonempty stored
  have carries := polled.carries admitted
  have peeks' : ∀ other, next.peek other = group.peek other := by
    intro other
    rw [peek, polled.storage]
    exact peeks other
  have calls : ∀ other found, (group.entered storage call key).flight.key? other = some found →
      Pursues group (.poll call owner) other found := by
    intro other found known
    rcases (sound.consistent.turn (.call call key)).key?_origin known with before | ⟨⟨⟩⟩
    · exact .inl before
    · exact pursues_of_arrived arrived nonempty
  refine ⟨polled.sound, polled.name, ?_, ?_, ?_, ?_, ?_⟩
  · intro other found held
    exact .inl ((peeks' other).symm.trans held)
  · intro other found arrives
    rw [polled.arrivals] at arrives
    exact .inl (arrived_of_erase arrives)
  · intro other found known
    exact calls other found (carries.key other found known)
  · intro other found mailbox result waits mail
    obtain ⟨waited, origin⟩ := carries.mail other found mailbox result waits mail
    refine ⟨(Flight.waits_enter new).mp waited, ?_⟩
    rcases origin with before | ⟨value, held, rfl⟩
    · rw [entered, Flight.mailboxes_enter] at before
      exact .inl before
    · exact .inr (.stored _ value ((peeks found).symm.trans held))
  · rintro result ⟨⟩
    obtain ⟨found, known, ⟨mailbox, waits, mail⟩ | ⟨value, held, rfl⟩⟩ := polled.result admitted
    · rw [entered, Flight.mailboxes_enter] at mail
      exact ⟨call, found, rfl, .inr ⟨calls call found known,
        .inr ⟨mailbox, (Flight.waits_enter new).mp waits, mail⟩⟩⟩
    · exact ⟨call, found, rfl, .inr ⟨calls call found known,
        .inl (.stored _ value ((peeks found).symm.trans held))⟩⟩

/-- After the lookup, the first poll of a get answers a hit or goes on in the flight. -/
theorem begin_eq (nonempty : key ≠ "")
    (looked : (group.turnAway call).lookup key =
      .ok (group.peek key, { group.turnAway call with storage })) :
    group.begin call key owner = match group.peek key with
      | some value => .ok ({ group.turnAway call with
          storage
          stats.cacheHits := (group.turnAway call).stats.cacheHits + 1 }, .finished (.ok value))
      | none => (group.entered storage call key).pollFlight call owner := by
  simp only [begin, if_neg nonempty]
  rw [show Group.lookup { group with
    arrivals := group.arrivals.erase call
    stats.gets := group.stats.gets + 1 } key = _ from looked]
  cases group.peek key <;> rfl

private theorem begin_ok (sound : group.Sound) (arrived : group.arrivals[call]? = some key)
    (owner : Option String) :
    ∃ next progress, group.begin call key owner = .ok (next, progress) ∧
      Advances group (.poll call owner) ⟨next, some progress, []⟩ := by
  by_cases nonempty : key = ""
  · subst nonempty
    exact ⟨group.turnAway call, .finished (.error .invalidKey), rfl, reject_ok sound arrived⟩
  · obtain ⟨storage, looked, stored, peeks⟩ := lookup_ok (sound.turnAway call) key
    rw [begin_eq nonempty looked]
    cases hit : group.peek key with
    | some value => exact ⟨_, _, rfl, hit_ok sound arrived nonempty hit stored peeks _⟩
    | none =>
      have gone : (group.entered storage call key).arrivals[call]? = none :=
        Std.ExtTreeMap.getElem?_erase_self
      obtain ⟨next, progress, ready, answered, polled⟩ :=
        pollFlight_ok (sound.entered arrived nonempty stored) gone owner
      exact ⟨next, progress, answered, miss_ok sound arrived nonempty stored peeks polled⟩

end Begin

theorem poll_ok {group : Group} (sound : group.Sound) (call : Nat) (owner : Option String) :
    ∃ outcome, group.step (.poll call owner) = .ok outcome ∧
      Advances group (.poll call owner) outcome := by
  have polled : ∃ next progress, group.poll call owner = .ok (next, progress) ∧
      Advances group (.poll call owner) ⟨next, some progress, []⟩ := by
    unfold poll
    cases arrived : group.arrivals[call]? with
    | none => exact resume_ok sound arrived owner
    | some key => exact begin_ok sound arrived owner
  obtain ⟨next, progress, answered, advances⟩ := polled
  refine ⟨_, ?_, advances⟩
  simp only [step, answered, bind, Except.bind]
  rfl

/-- No action on a sound group faults. -/
theorem advances_of_step {group : Group} (sound : group.Sound) (action : Action) :
    ∃ outcome, group.step action = .ok outcome ∧ Advances group action outcome := by
  cases action with
  | call call key => exact ⟨_, rfl, call_ok sound call key⟩
  | poll call owner => exact poll_ok sound call owner
  | fetched call result => exact fetched_ok sound call result
  | loaded call result => exact loaded_ok sound call result
  | drop call => exact ⟨_, rfl, drop_ok sound call⟩
  | registerPeers => exact registerPeers_ok sound

theorem Sound.advances {group : Group} (sound : group.Sound) {action : Action} {outcome : Outcome}
    (stepped : group.step action = .ok outcome) : Advances group action outcome := by
  obtain ⟨same, stepped', advances⟩ := advances_of_step sound action
  rwa [Except.ok.inj (stepped.symm.trans stepped')]

end PeerCache.Group
