import PeerCache.Proofs.Group.Steps

/-! # Gets that run alone

A get that is started when no other is under way meets nobody. It ends at its first look, or it
leads the flight of its key and asks for what it needs; and with the answer it ends, or it turns to
the loader. When it has ended, no get is under way again, and all that can have come to be stored is
what the loader gave for its key.
-/

namespace PeerCache.Group

/-- What a computation of a group needs first: the value from the owner of the key, or from the
loader if there is nobody to be asked. -/
def Request.first (name : String) (owner : Option String) (key : String) : Request :=
  match owner with
  | some peer => .fetch peer name key
  | none => .load key

/-- What a computation of a key asks for first, where the peer picker names this owner. -/
def opening (group : Group) (key : String) (owner : Option String) : Request :=
  .first group.name (if group.hasPeers then owner else none) key

/-- No get is under way. -/
structure Quiet (group : Group) : Prop where
  sound : group.Sound
  arrivals : ∀ call : Nat, group.arrivals[call]? = none
  calls : ∀ call : Nat, group.flight.calls[call]? = none

/-- The only get that is under way needs something. -/
structure Occupied (group : Group) (call : Nat) (request : Request) : Prop where
  sound : group.Sound
  arrivals : ∀ other : Nat, group.arrivals[other]? = none
  others : ∀ other, call ≠ other → group.flight.calls[other]? = none
  errand : group.errands[call]? = some request

/-- A group goes on as it was, but for values that are added to the stored ones. -/
structure Continues (before after : Group) (added : String → Bytes → Prop) : Prop where
  name : after.name = before.name
  hasPeers : after.hasPeers = before.hasPeers
  stored : ∀ key value, after.peek key = some value →
    before.peek key = some value ∨ added key value

/-- How far a get of a key comes that is polled when no other is under way. -/
inductive Opens (group : Group) (call : Nat) (key : String) (owner : Option String) (next : Group) :
    Progress → Prop
  | rejects (empty : key = "") (quiet : next.Quiet) :
      Opens group call key owner next (.finished (.error .invalidKey))
  | hits (nonempty : key ≠ "") (value : Bytes) (stored : group.peek key = some value)
      (quiet : next.Quiet) : Opens group call key owner next (.finished (.ok value))
  | misses (nonempty : key ≠ "")
      (occupied : next.Occupied call (group.opening key owner)) :
      Opens group call key owner next (.asks (group.opening key owner))

section

variable {group : Group} {call : Nat} {key name peer : String} {request : Request}

theorem quiet_create (name : String) (plan : Storage.Plan) : (create name plan).Quiet where
  sound := sound_create name plan
  arrivals := by simp [create]
  calls := by simp [create, Flight.empty]

theorem Quiet.liveCalls (quiet : group.Quiet) : group.liveCalls = [] := by
  have arrivals : group.arrivals = ∅ := Std.ExtTreeMap.ext_getElem? (by simp [quiet.arrivals])
  have calls : group.flight.calls = ∅ := Std.ExtTreeMap.ext_getElem? (by simp [quiet.calls])
  rw [Group.liveCalls, arrivals, calls, Std.ExtTreeMap.keys_eq_nil_iff.mpr rfl,
    Std.ExtTreeMap.keys_eq_nil_iff.mpr rfl, List.append_nil, List.mergeSort_nil]

theorem Quiet.count (quiet : group.Quiet) (stats : Stats) : { group with stats }.Quiet :=
  ⟨quiet.sound.restock _ quiet.sound.stored stats, quiet.arrivals, quiet.calls⟩

theorem Quiet.registerPeers (quiet : group.Quiet) {next : Group}
    (registered : group.registerPeers = .ok next) :
    next.Quiet ∧ next.hasPeers = true ∧ Continues { group with hasPeers := true } next
      fun _ _ => False := by
  unfold Group.registerPeers at registered
  split at registered
  · cases registered
  · cases registered
    have sound := quiet.sound
    exact ⟨⟨⟨sound.stored, sound.consistent, sound.apart, sound.errand, sound.keyed⟩,
      quiet.arrivals, quiet.calls⟩, rfl, rfl, rfl, fun _ _ => .inl⟩

/-! ## The first poll -/

private theorem pollFlight_of_fresh (fresh : group.flight.calls[call]? = some ⟨key, .fresh⟩)
    (vacant : group.flight.records[key]? = none) (missing : group.peek key = none)
    (owner : Option String) :
    group.pollFlight call owner =
      .ok ({ group with
          flight := group.flight.lead call key
          stats.loadsDeduped := group.stats.loadsDeduped + 1 }.ask call
        (group.opening key owner)) := by
  have attended : group.flight.attend call = (group.flight.lead call key, .started) := by
    simp only [Flight.attend, fresh, Flight.join_of_absent vacant]
  have known : (group.flight.lead call key).key? call = some key := by
    simp [Flight.key?, Flight.getElem?_lead]
  have missing : ({ group with flight := group.flight.lead call key } : Group).peek key = none :=
    missing
  simp only [pollFlight, attended, known, compute, missing, opening]
  cases if group.hasPeers then owner else none <;> rfl

private theorem Quiet.call_eq (quiet : group.Quiet) (call : Nat) (key : String) :
    group.call call key = { group with arrivals := group.arrivals.insert call key } := by
  simp [Group.call, isLive, Std.ExtTreeMap.contains_eq_isSome_getElem?, quiet.arrivals, quiet.calls]

private theorem Quiet.left (quiet : group.Quiet) (call : Nat) (key : String) (other : Nat) :
    ((group.call call key).turnAway call).arrivals[other]? = none := by
  simp only [turnAway, quiet.call_eq, Std.ExtTreeMap.getElem?_erase,
    Std.ExtTreeMap.getElem?_insert, quiet.arrivals]
  split <;> rfl

/-- A get that misses when no other is under way asks for what it needs. -/
private theorem Quiet.misses (quiet : group.Quiet) {storage : Option Storage} (nonempty : key ≠ "")
    (stored : ∀ found, storage = some found → found.Sound)
    (same : ∀ other, (storage.bind fun found => found.peek other) = group.peek other)
    (missing : group.peek key = none) (owner : Option String) :
    ∃ next, ((group.call call key).entered storage call key).pollFlight call owner =
        .ok (next, .asks (group.opening key owner)) ∧
      Continues group next (fun _ _ => False) ∧
      next.Occupied call (group.opening key owner) := by
  have arrived : (group.call call key).arrivals[call]? = some key := by simp [quiet.call_eq]
  have sound := (call_ok quiet.sound call key).sound.entered arrived nonempty stored
  have new : call ∉ group.flight.calls := by
    simpa using quiet.calls call
  have calls : ∀ other : Nat,
      ((group.call call key).entered storage call key).flight.calls[other]? =
        if call = other then some ⟨key, .fresh⟩ else none := by
    intro other
    rw [entered, quiet.call_eq, Flight.getElem?_enter _ _ _ _ new, quiet.calls]
  -- a record would stand for a leader, and the only call there is has not been polled
  have vacant : ((group.call call key).entered storage call key).flight.records[key]? = none := by
    by_contra recorded
    obtain ⟨leader, leads⟩ := (sound.consistent.recorded key).mp
      (Std.ExtTreeMap.mem_iff_isSome_getElem?.mpr (Option.isSome_iff_ne_none.mpr recorded))
    rw [Flight.Leads, calls] at leads
    split at leads <;> simp at leads
  have asked := pollFlight_of_fresh ((calls call).trans (if_pos rfl)) vacant
    ((same key).trans missing) owner
  have opens : ((group.call call key).entered storage call key).opening key owner =
      group.opening key owner := by
    rw [quiet.call_eq]
    rfl
  rw [← opens]
  -- what the poll answers is known, and that it leaves the group sound holds of any poll
  obtain ⟨next, progress, ready, answered, polled⟩ :=
    pollFlight_ok sound (quiet.left call key call) owner
  cases asked.symm.trans answered
  refine ⟨_, answered, ⟨?_, ?_, fun other found held => .inl ?_⟩,
    polled.sound, quiet.left call key, ?_, ?_⟩
  · rw [quiet.call_eq]
    rfl
  · rw [quiet.call_eq]
    rfl
  · exact (same other).symm.trans held
  · intro other other_ne
    exact (Flight.getElem?_lead ..).trans <| by rw [if_neg other_ne, calls, if_neg other_ne]
  · exact Std.ExtTreeMap.getElem?_insert_self

/-- A get that is polled when no other is under way ends, or asks for what it needs. -/
theorem Quiet.opens (quiet : group.Quiet) (call : Nat) (key : String) (owner : Option String) :
    ∃ next progress, (group.call call key).poll call owner = .ok (next, progress) ∧
      Continues group next (fun _ _ => False) ∧ Opens group call key owner next progress := by
  have called := quiet.call_eq call key
  have arrived : (group.call call key).arrivals[call]? = some key := by simp [called]
  have left := quiet.left call key
  have calls : ∀ other : Nat, (group.call call key).flight.calls[other]? = none := by
    simp [called, quiet.calls]
  have sound : ((group.call call key).turnAway call).Sound :=
    (call_ok quiet.sound call key).sound.turnAway call
  rw [poll, arrived]
  by_cases nonempty : key = ""
  · subst nonempty
    refine ⟨(group.call call "").turnAway call, _, rfl, ?_, .rejects rfl ⟨sound, left, calls⟩⟩
    rw [called]
    exact ⟨rfl, rfl, fun _ _ => .inl⟩
  · obtain ⟨storage, looked, stored, same⟩ := lookup_ok sound key
    dsimp only
    rw [begin_eq nonempty looked]
    have peeks : ∀ other, (group.call call key).peek other = group.peek other := by
      simp [called, peek]
    have same : ∀ other, (storage.bind fun found => found.peek other) = group.peek other :=
      fun other => (same other).trans (peeks other)
    rw [peeks]
    cases hit : group.peek key with
    | some value =>
      refine ⟨_, _, rfl, ?_, .hits nonempty value hit ⟨sound.restock _ stored _, left, calls⟩⟩
      rw [called]
      exact ⟨rfl, rfl, fun other found held => .inl ((same other).symm.trans held)⟩
    | none =>
      obtain ⟨next, asked, continues, occupied⟩ := quiet.misses nonempty stored same hit owner
      exact ⟨next, _, asked, continues, .misses nonempty occupied⟩

/-! ## Answers -/

private theorem Occupied.restock (occupied : group.Occupied call request) (storage : Option Storage)
    (stored : ∀ found, storage = some found → found.Sound) (stats : Stats) :
    { group with storage, stats }.Occupied call request :=
  ⟨occupied.sound.restock storage stored stats, occupied.arrivals, occupied.others,
    occupied.errand⟩

private theorem Occupied.leads (occupied : group.Occupied call request) :
    group.flight.Leads call request.key :=
  (occupied.sound.errand.leads call request.key).mpr ⟨request, occupied.errand, rfl⟩

private theorem Occupied.conclude (occupied : group.Occupied call request) (result : GetResult) :
    (group.conclude call result).1.Quiet where
  sound := (conclude_ok occupied.sound occupied.leads result).1
  arrivals := occupied.arrivals
  calls := by
    intro other
    rw [Group.conclude, Flight.conclude_of_leads occupied.leads, Flight.getElem?_retire]
    split
    · rfl
    · next other_ne => exact occupied.others other other_ne

/-- A get ends with the value that a peer sends, and nothing comes to be stored. -/
theorem Occupied.fetched (occupied : group.Occupied call (.fetch peer name key)) (value : Bytes) :
    ∃ next, group.fetched call (.ok value) = .ok (next, .finished (.ok value)) ∧
      Continues group next (fun _ _ => False) ∧ next.Quiet := by
  have answered : group.fetched call (.ok value) = .ok ({ group with
      stats.peerLoads := group.stats.peerLoads + 1 }.conclude call (.ok value)) := by
    simp only [Group.fetched, occupied.errand]
  exact ⟨_, answered, ⟨rfl, rfl, fun _ _ => .inl⟩,
    (occupied.restock _ occupied.sound.stored _).conclude (.ok value)⟩

theorem Occupied.turns (occupied : group.Occupied call (.fetch peer name key)) (cause : Error) :
    ∃ next, group.fetched call (.error cause) = .ok (next, .asks (.load key)) ∧
      Continues group next (fun _ _ => False) ∧ next.Occupied call (.load key) := by
  have answered : group.fetched call (.error cause) = .ok ({ group with
      stats.peerErrors := group.stats.peerErrors + 1 }.ask call (.load key)) := by
    simp only [Group.fetched, occupied.errand]
  have errands : Errands group.name group.flight (group.errands.insert call (.load key)) :=
    errand_insert occupied.sound (fun _ _ => rfl) occupied.leads trivial
  have sound := occupied.sound
  exact ⟨_, answered, ⟨rfl, rfl, fun _ _ => .inl⟩,
    ⟨sound.stored, sound.consistent, sound.apart, errands, sound.keyed⟩, occupied.arrivals,
    occupied.others, Std.ExtTreeMap.getElem?_insert_self⟩

/-- A get ends with what the loader gives. A value comes to be stored, and an error does not. -/
theorem Occupied.loaded (occupied : group.Occupied call (.load key))
    (result : Except String Bytes) :
    ∃ departures next, group.loaded call result =
        .ok (departures, next, .finished (result.mapError .loader)) ∧
      Continues group next (fun other found => other = key ∧ result = .ok found) ∧
      next.Quiet := by
  cases result with
  | error text =>
    have answered : group.loaded call (.error text) = .ok ([], { group with
        stats.localLoadErrors := group.stats.localLoadErrors + 1 }.conclude call
          (.error (.loader text))) := by
      simp only [Group.loaded, occupied.errand]
    exact ⟨_, _, answered, ⟨rfl, rfl, fun _ _ => .inl⟩,
      (occupied.restock _ occupied.sound.stored _).conclude (.error (.loader text))⟩
  | ok value =>
    have counted := occupied.sound.restock _ occupied.sound.stored
      { group.stats with localLoads := group.stats.localLoads + 1 }
    obtain ⟨departures, storage, populated, after, stored⟩ := populate_ok counted key value
    let filled : Group := { group with
      storage := some storage
      stats.localLoads := group.stats.localLoads + 1 }
    have answered : group.loaded call (.ok value) =
        .ok (departures, filled.conclude call (.ok value)) := by
      simp only [Group.loaded, occupied.errand, populated, bind, Except.bind]
      rfl
    refine ⟨_, _, answered, ⟨rfl, rfl, fun other found held => ?_⟩,
      (occupied.restock (some storage) (by rintro found ⟨⟩; exact after) _).conclude (.ok value)⟩
    exact (stored other found held).imp_right fun same => ⟨same.1, by rw [same.2]⟩

end

end PeerCache.Group
