import PeerCache.Proofs.Group.Bookkeeping
import PeerCache.Proofs.Group.Truth

/-! # What gets come to, and when they are counted

Whatever loaders and peers answer, a get of a key comes to a value, to what a loader says about its
failure, or, if the key is empty, to the rejection of the key; the error of a peer goes no further
than the computation that asked it. A get is counted once, when it is polled for the first time. The
requests of peers are counted by those who receive them, and nothing that a get does counts one.
-/

namespace PeerCache.Group

/-- What a get of a key can come to. -/
inductive Results (key : String) : GetResult → Prop
  | rejected (empty : key = "") : Results key (.error .invalidKey)
  | value (nonempty : key ≠ "") (value : Bytes) : Results key (.ok value)
  | failed (nonempty : key ≠ "") (text : String) : Results key (.error (.loader text))

/-- A group is fair if it is sound and sends to those that wait only what gets can come to. -/
structure Fair (group : Group) : Prop extends Sound group where
  mail : ∀ call key mailbox result, group.flight.Waits call key mailbox →
    group.flight.mailboxes[mailbox]? = some (.delivered result) → Results key result

/-- From one state of a group to another, so many gets and so many requests of peers were
counted. -/
structure Counts (before after : Group) (gets requests : Nat) : Prop where
  gets : after.stats.gets = before.stats.gets + gets
  requests : after.stats.serverRequests = before.stats.serverRequests + requests

/-- Whether an action is the first poll of a get. -/
def isFirst (group : Group) : Action → Bool
  | .poll call _ => (group.arrivals[call]?).isSome
  | _ => false

/-- How far a new get of a key comes when it is polled for the first time: it ends, it waits for the
get that leads its key, or it leads its key and asks for what it needs. -/
inductive Enters (group : Group) (call : Nat) (key : String) (owner : Option String)
    (next : Group) : Progress → Prop
  | ends (result : GetResult) (results : Results key result) :
      Enters group call key owner next (.finished result)
  | waits (nonempty : key ≠ "") (missing : group.peek key = none) (leader : Nat)
      (leads : group.flight.Leads leader key) (known : next.flight.key? call = some key) :
      Enters group call key owner next .waits
  | asks (nonempty : key ≠ "") (missing : group.peek key = none)
      (errand : next.errands[call]? = some (group.opening key owner)) :
      Enters group call key owner next (.asks (group.opening key owner))

variable {group next : Group} {call : Nat} {key : String} {owner : Option String}
  {progress : Progress} {action : Action} {outcome : Outcome} {result : GetResult}

/-! ## Results -/

theorem Concludes.results (concludes : Concludes group key action result) (nonempty : key ≠ "") :
    Results key result := by
  cases concludes with
  | stored | fetched | loaded => exact .value nonempty _
  | failed => exact .failed nonempty _

theorem fair_create (name : String) (plan : Storage.Plan) : (create name plan).Fair where
  toSound := sound_create name plan
  mail := by simp [create, Flight.empty, Flight.Waits]

theorem Fair.recordRequest (fair : group.Fair) : group.recordRequest.Fair where
  toSound := fair.toSound.restock _ fair.stored _
  mail := fair.mail

theorem Fair.step (fair : group.Fair) (stepped : group.step action = .ok outcome) :
    outcome.group.Fair where
  toSound := (fair.advances stepped).sound
  mail := by
    have advances := fair.advances stepped
    intro call key mailbox result waits mail
    obtain ⟨waited, before | concludes⟩ := advances.mail call key mailbox result waits mail
    · exact fair.mail call key mailbox result waited before
    · refine concludes.results ?_
      rintro rfl
      exact fair.keyed call waited.key?_eq

/-- An action that ends a get of a fair group ends it with what a get of its key can come to. -/
theorem Fair.finished (fair : group.Fair) (stepped : group.step action = .ok outcome)
    (finished : outcome.progress = some (.finished result)) :
    ∃ call key, action.get? = some call ∧ group.keyOf? call = some key ∧ Results key result := by
  obtain ⟨call, key, about, ⟨owner, -, arrived, rfl, rfl, -⟩ | ⟨pursues, resolves⟩⟩ :=
    (fair.advances stepped).finished result finished
  · exact ⟨call, "", about, keyOf?_of_arrived arrived, .rejected rfl⟩
  · refine ⟨call, key, about, fair.keyOf?_of_pursues pursues, ?_⟩
    rcases resolves with concludes | ⟨mailbox, waits, mail⟩
    · exact concludes.results (fair.nonempty_of_pursues pursues)
    · exact fair.mail call key mailbox result waits mail

/-! ## Counting -/

private theorem Proceeds.counts (proceeds : Proceeds group call owner next progress) :
    Counts group next 0 0 := by
  cases proceeds <;> exact ⟨rfl, rfl⟩

private theorem Polls.counts (polls : Polls group call owner next progress) :
    Counts group next (group.isFirst (.poll call owner)).toNat 0 := by
  cases polls with
  | rejects arrived | hits _ _ _ arrived =>
    simp only [isFirst, arrived]
    exact ⟨rfl, rfl⟩
  | misses key storage next progress arrived _ _ _ _ proceeds =>
    simp only [isFirst, arrived]
    exact ⟨proceeds.counts.gets, proceeds.counts.requests⟩
  | resumes next progress unarrived proceeds =>
    simp only [isFirst, unarrived]
    exact proceeds.counts

theorem counts_of_fetched (stepped : group.step (.fetched call result) = .ok outcome) :
    Counts group outcome.group 0 0 := by
  rcases cases_of_fetched stepped with same | ⟨peer, name, key, errand, ⟨value, same⟩ | same⟩ <;>
    (rw [same]; exact ⟨rfl, rfl⟩)

theorem counts_of_loaded {given : Except String Bytes}
    (stepped : group.step (.loaded call given) = .ok outcome) :
    Counts group outcome.group 0 0 := by
  rcases cases_of_loaded stepped with
    same | ⟨key, errand, ⟨storage, value, same⟩ | ⟨text, same⟩⟩ <;>
      (rw [same]; exact ⟨rfl, rfl⟩)

/-- An action counts a get if it is the first poll of one, and it counts no request. -/
theorem counts_of_step (sound : group.Sound) (stepped : group.step action = .ok outcome) :
    Counts group outcome.group (group.isFirst action).toNat 0 := by
  cases action with
  | poll call owner =>
    obtain ⟨⟨next, progress⟩, polled, stepped⟩ := Checked.bind_eq_ok_iff.mp stepped
    cases stepped
    exact (polls_of_poll sound polled).counts
  | fetched call result => exact counts_of_fetched stepped
  | loaded call result => exact counts_of_loaded stepped
  | call call key =>
    cases stepped
    unfold Group.call
    split <;> exact ⟨rfl, rfl⟩
  | drop call =>
    cases stepped
    exact ⟨rfl, rfl⟩
  | registerPeers => cases occurs_of_step stepped <;> exact ⟨rfl, rfl⟩

theorem Counts.trans {last : Group} {gets gets' requests requests' : Nat}
    (first : Counts group next gets requests) (second : Counts next last gets' requests') :
    Counts group last (gets + gets') (requests + requests') where
  gets := by rw [second.gets, first.gets, Nat.add_assoc]
  requests := by rw [second.requests, first.requests, Nat.add_assoc]

/-! ## Last answers -/

theorem results_of_fetched {given : GetResult} (nonempty : key ≠ "")
    (answered : group.fetched call given = .ok (next, .finished result)) : Results key result := by
  unfold fetched at answered
  split at answered
  · cases given <;> cases answered
    exact .value nonempty _
  · cases answered

/-- The answer of the loader that ends a get is a value, or tells of the failure. -/
theorem results_of_loaded {given : Except String Bytes} {departures : List Departure}
    (nonempty : key ≠ "")
    (answered : group.loaded call given = .ok (departures, next, .finished result)) :
    Results key result := by
  unfold loaded at answered
  split at answered
  · cases given with
    | ok value =>
      obtain ⟨⟨left, filled⟩, -, answered⟩ := Checked.bind_eq_ok_iff.mp answered
      cases answered
      exact .value nonempty value
    | error text =>
      cases answered
      exact .failed nonempty text
  · cases answered

theorem exists_of_loads (sound : group.Sound) (errand : group.errands[call]? = some (.load key))
    (given : Except String Bytes) :
    ∃ departures next result,
      group.loaded call given = .ok (departures, next, .finished result) := by
  simp only [loaded, errand]
  cases given with
  | error text => exact ⟨_, _, _, rfl⟩
  | ok value =>
    obtain ⟨departures, storage, populated, -⟩ := populate_ok
      (sound.restock _ sound.stored { group.stats with localLoads := group.stats.localLoads + 1 })
      key value
    simp only [populated, bind, Except.bind]
    exact ⟨_, _, _, rfl⟩

/-! ## First polls -/

private theorem fresh_of_entered (sound : group.Sound) (storage : Option Storage)
    (arrived : group.arrivals[call]? = some key) :
    (group.entered storage call key).flight.calls[call]? = some ⟨key, .fresh⟩ := by
  have new : call ∉ group.flight.calls := by simpa using sound.apart call (by simp [arrived])
  rw [entered, Flight.getElem?_enter _ _ _ _ new, if_pos rfl]

/-- In the flight, a new get waits for the one that leads its key, or leads it. -/
private theorem Proceeds.enters (sound : group.Sound)
    (fresh : group.flight.calls[call]? = some ⟨key, .fresh⟩) (nonempty : key ≠ "")
    (missing : group.peek key = none) (proceeds : Proceeds group call owner next progress) :
    Enters group call key owner next progress := by
  have known : ∀ other, group.flight.key? call = some other → other = key := by
    intro other known
    simpa [Flight.key?, fresh, eq_comm] using known
  have idle : ∀ other mailbox, ¬ group.flight.Waits call other mailbox := by
    simp [Flight.Waits, fresh]
  cases proceeds with
  | absent gone => simp [fresh] at gone
  | remains request errand =>
    have leads := sound.leads_of_errand errand
    simp [Flight.Leads, fresh] at leads
  | waits flight attends =>
    cases attends with
    | waits other mailbox waits => exact absurd waits (idle other mailbox)
    | queues other base waiters seeks recorded =>
      cases seeks with
      | stranded mailbox waits => exact absurd waits (idle other mailbox)
      | fresh unpolled =>
        obtain rfl := known other (by simp [Flight.key?, unpolled])
        obtain ⟨leader, leads⟩ := (sound.consistent.recorded other).mp
          (Std.ExtTreeMap.mem_iff_isSome_getElem?.mpr (by simp [recorded]))
        exact .waits nonempty missing leader leads (by simp [Flight.key?, Flight.getElem?_queue])
  | receives flight result attends =>
    cases attends with
    | receives other mailbox value waits => exact absurd waits (idle other mailbox)
  | hits flight other value => exact .ends _ (.value nonempty value)
  | asks flight other attends known' =>
    obtain rfl := known other known'
    exact .asks nonempty missing Std.ExtTreeMap.getElem?_insert_self

private theorem Polls.enters (sound : group.Sound) (arrived : group.arrivals[call]? = some key)
    (polls : Polls group call owner next progress) :
    Enters group call key owner next progress := by
  cases polls with
  | rejects arrived' =>
    obtain rfl : key = "" := Option.some.inj (arrived.symm.trans arrived')
    exact .ends _ (.rejected rfl)
  | hits other value storage arrived' nonempty =>
    obtain rfl : key = other := Option.some.inj (arrived.symm.trans arrived')
    exact .ends _ (.value nonempty value)
  | resumes next progress unarrived => simp [arrived] at unarrived
  | misses other storage next progress arrived' nonempty missing admitted peeks proceeds =>
    obtain rfl : key = other := Option.some.inj (arrived.symm.trans arrived')
    have fresh := fresh_of_entered sound storage arrived'
    have new : call ∉ group.flight.calls := by simpa using sound.apart call (by simp [arrived])
    cases proceeds.enters admitted fresh nonempty ((peeks key).trans missing) with
    | ends result results => exact .ends result results
    | waits _ _ leader leads known =>
      exact .waits nonempty missing leader ((Flight.leads_enter new).mp leads) known
    | asks _ _ errand => exact .asks nonempty missing errand

private theorem Enters.before {arrivals : Std.ExtTreeMap Nat String}
    (enters : Enters { group with arrivals } call key owner next progress) :
    Enters group call key owner next progress := by
  cases enters with
  | ends result results => exact .ends result results
  | waits nonempty missing leader leads known => exact .waits nonempty missing leader leads known
  | asks nonempty missing errand => exact .asks nonempty missing errand

/-- The first poll of a new get does not fault, and counts the get. -/
theorem Fair.opens (fair : group.Fair) (free : group.isLive call = false) (key : String)
    (owner : Option String) :
    ∃ next progress, (group.call call key).poll call owner = .ok (next, progress) ∧ next.Fair ∧
      Counts group next 1 0 ∧ Enters group call key owner next progress := by
  have called :
      group.call call key = { group with arrivals := group.arrivals.insert call key } := by
    simp [Group.call, free]
  have calls : group.step (.call call key) = .ok ⟨group.call call key, none, []⟩ := rfl
  have created : (group.call call key).Fair := fair.step calls
  have arrived : (group.call call key).arrivals[call]? = some key := by simp [called]
  obtain ⟨outcome, stepped, -⟩ := poll_ok created.toSound call owner
  obtain ⟨⟨next, progress⟩, polled, stepped'⟩ := Checked.bind_eq_ok_iff.mp stepped
  cases stepped'
  have counts := counts_of_step created.toSound stepped
  simp only [isFirst, arrived] at counts
  have enters := (polls_of_poll created.toSound polled).enters created.toSound arrived
  rw [called] at enters counts
  exact ⟨next, progress, polled, created.step stepped, ⟨counts.gets, counts.requests⟩,
    enters.before⟩

/-- A get that asks for something leads its key, which it has missed. -/
theorem Enters.asked {request : Request}
    (enters : Enters group call key owner next (.asks request)) :
    key ≠ "" ∧ group.peek key = none ∧ request = group.opening key owner ∧
      next.errands[call]? = some request := by
  cases enters with
  | asks nonempty missing errand => exact ⟨nonempty, missing, rfl, errand⟩

end PeerCache.Group
