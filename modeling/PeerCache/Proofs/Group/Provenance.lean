import PeerCache.Proofs.Group.Steps

/-! # Where the answers of a group come from

A get may be answered from the storage, from the storage once more when its computation starts, by
its own computation, or by that of another get of its key, and gets may be cancelled and taken over
at any time. All of this is decided by what a group holds: stored values, calls, and mail on its
way. Each of them is traced back along the run to the loads and fetches it stems from. A stored
value was loaded at some time, however long ago. Mail was written when a computation of the key
ended, while the call that waits for it was already in the flight, so never before the first poll of
its get.
-/

namespace PeerCache.Group

private theorem run_append {group middle final : Group} {first second : List Action}
    {earlier later : List Outcome} (ran : group.run first = .ok (middle, earlier))
    (ran' : middle.run second = .ok (final, later)) :
    group.run (first ++ second) = .ok (final, earlier ++ later) := by
  induction first generalizing group earlier with
  | nil =>
    cases ran
    exact ran'
  | cons action rest ih =>
    obtain ⟨outcome, stepped, ran⟩ := Checked.bind_eq_ok_iff.mp ran
    obtain ⟨⟨last, outcomes⟩, continued, same⟩ := Checked.bind_eq_ok_iff.mp ran
    cases same
    have whole := ih continued
    simp only [List.cons_append, run, stepped, whole, bind, Except.bind]
    rfl

/-- A new group and what happens to it, in order. -/
structure History where
  name : String
  plan : Storage.Plan
  actions : List Action

/-- The group after an action. A fault would leave it as it is. -/
def advance (group : Group) (action : Action) : Group :=
  match group.step action with
  | .ok outcome => outcome.group
  | .error _ => group

namespace History

/-- The group at a time, which is the one that the action at that time meets. -/
def group (history : History) (time : Nat) : Group :=
  (history.actions.take time).foldl advance (create history.name history.plan)

section Definitions

variable (history : History)

/-- The entries that leave with the action at a moment, in order. -/
def departuresAt (moment : Nat) : List Departure :=
  match (history.actions[moment]?).map (history.group moment).step with
  | some (.ok outcome) => outcome.departures
  | _ => []

/-- All entries that left before a time, in order. -/
def departures (time : Nat) : List Departure := (List.range time).flatMap history.departuresAt

/-- No action faults. The groups of the history, and the entries that leave, are those of the
run. -/
def Runs : Prop :=
  ∀ time, ∃ outcomes, (create history.name history.plan).run (history.actions.take time) =
      .ok (history.group time, outcomes) ∧
    history.departures time = outcomes.flatMap Outcome.departures

/-- The loader answers a computation of the key. -/
def Loads (time : Nat) (key : String) (result : Except String Bytes) : Prop :=
  ∃ call, history.actions[time]? = some (.loaded call result) ∧
    (history.group time).errands[call]? = some (.load key)

/-- A peer answers a computation of the key, which it was asked for under the name of the group. -/
def Fetches (time : Nat) (key : String) (result : GetResult) : Prop :=
  ∃ call peer, history.actions[time]? = some (.fetched call result) ∧
    (history.group time).errands[call]? = some (.fetch peer history.name key)

/-- A get ends with a result. -/
def Completes (time call : Nat) (result : GetResult) : Prop :=
  ∃ action outcome, history.actions[time]? = some action ∧ action.get? = some call ∧
    (history.group time).step action = .ok outcome ∧ outcome.progress = some (.finished result)

/-- A get was created for a key and has not been polled since. -/
structure Arrives (created call : Nat) (key : String) (time : Nat) : Prop where
  creates : history.actions[created]? = some (.call call key)
  new : (history.group created).isLive call = false
  earlier : created < time
  stays : ∀ moment, created < moment → moment ≤ time →
    (history.group moment).arrivals[call]? = some key

/-- A get was created for a key, was polled for the first time when it began, and has been in the
flight since. -/
structure Gets (created begun call : Nat) (key : String) (time : Nat) : Prop where
  arrives : history.Arrives created call key begun
  begins : ∃ owner, history.actions[begun]? = some (.poll call owner)
  reached : begun ≤ time
  flies : ∀ moment, begun < moment → moment ≤ time →
    (history.group moment).flight.key? call = some key

/-- A computation of the key can end with this result at this time: with a value that was loaded now
or before, with one that is fetched now, or with the error of a load now. -/
inductive Settles (time : Nat) (key : String) : GetResult → Prop
  | loaded (value : Bytes) (moment : Nat) (before : moment ≤ time)
      (loads : history.Loads moment key (.ok value)) : Settles time key (.ok value)
  | fetched (value : Bytes) (fetches : history.Fetches time key (.ok value)) :
      Settles time key (.ok value)
  | failed (text : String) (loads : history.Loads time key (.error text)) :
      Settles time key (.error (.loader text))

/-- What it means for the gets of a group that each gets an answer of its own key. -/
structure Provenance : Prop where
  runs : history.Runs
  /-- A group asks its peers under one name. -/
  named : ∀ time, (history.group time).name = history.name
  /-- What completes is a get that was created for some key and polled. -/
  traced : ∀ time call result, history.Completes time call result →
    ∃ created begun key, history.Gets created begun call key time
  /-- A get of the empty key is turned away at its first poll. The storage, the flight and the
  errands stay as they are, so it causes no lookup, no fetch and no load. -/
  rejected : ∀ created begun call time result, history.Gets created begun call "" time →
    history.Completes time call result →
    time = begun ∧ result = .error .invalidKey ∧
      history.group (time + 1) = (history.group time).turnAway call
  /-- Any other get ends with a value that the loader gave for its key at some time, with one that a
  peer sent for its key, or with the error of a load of its key. Only the first may be older than
  the first poll of the get. -/
  sourced : ∀ created begun call key time result, key ≠ "" →
    history.Gets created begun call key time → history.Completes time call result →
    (∃ value, result = .ok value ∧
      ((∃ moment, moment ≤ time ∧ history.Loads moment key (.ok value)) ∨
        ∃ moment, begun ≤ moment ∧ moment ≤ time ∧ history.Fetches moment key (.ok value))) ∨
    ∃ text moment, result = .error (.loader text) ∧ begun ≤ moment ∧ moment ≤ time ∧
      history.Loads moment key (.error text)

end Definitions

variable {history : History} {time moment call created begun : Nat} {key : String}

/-! ## The groups of a history -/

theorem group_succ {action : Action} (found : history.actions[time]? = some action) :
    history.group (time + 1) = (history.group time).advance action := by
  unfold group
  rw [List.take_add_one, found, Option.toList_some, List.foldl_append]
  rfl

theorem group_succ_of_none (past : history.actions[time]? = none) :
    history.group (time + 1) = history.group time := by
  unfold group
  rw [List.take_add_one, past, Option.toList_none, List.append_nil]

theorem sound (history : History) (time : Nat) : (history.group time).Sound := by
  induction time with
  | zero => exact sound_create history.name history.plan
  | succ time ih =>
    cases found : history.actions[time]? with
    | none =>
      rw [group_succ_of_none found]
      exact ih
    | some action =>
      obtain ⟨outcome, stepped, advances⟩ := advances_of_step ih action
      rw [group_succ found, advance, stepped]
      exact advances.sound

/-- Every action of a history leads to the next group, and does no more than an action can do. -/
theorem advances {action : Action} (found : history.actions[time]? = some action) :
    ∃ outcome, (history.group time).step action = .ok outcome ∧
      Advances (history.group time) action outcome ∧ history.group (time + 1) = outcome.group := by
  obtain ⟨outcome, stepped, advances⟩ := advances_of_step (history.sound time) action
  refine ⟨outcome, stepped, advances, ?_⟩
  rw [group_succ found, advance, stepped]

theorem departures_succ :
    history.departures (time + 1) = history.departures time ++ history.departuresAt time := by
  rw [departures, List.range_succ, List.flatMap_append]
  simp [departures]

theorem departuresAt_of_none (past : history.actions[moment]? = none) :
    history.departuresAt moment = [] := by
  rw [departuresAt, past]
  rfl

theorem departuresAt_of_step {action : Action} {outcome : Outcome}
    (found : history.actions[moment]? = some action)
    (stepped : (history.group moment).step action = .ok outcome) :
    history.departuresAt moment = outcome.departures := by
  simp only [departuresAt, found, Option.map_some, stepped]

theorem runs (history : History) : history.Runs := by
  intro time
  induction time with
  | zero => exact ⟨[], rfl, rfl⟩
  | succ time ih =>
    obtain ⟨outcomes, ran, left⟩ := ih
    rw [departures_succ, left]
    cases found : history.actions[time]? with
    | none =>
      refine ⟨outcomes, ?_, by simp [departuresAt_of_none found]⟩
      rw [List.take_add_one, found, Option.toList_none, List.append_nil, group_succ_of_none found]
      exact ran
    | some action =>
      obtain ⟨outcome, stepped, -, next⟩ := history.advances found
      refine ⟨outcomes ++ [outcome], ?_, by simp [departuresAt_of_step found stepped]⟩
      rw [List.take_add_one, found, Option.toList_some, next]
      refine run_append ran ?_
      simp [run, stepped, bind, Except.bind, pure, Except.pure]

theorem name_eq (history : History) (time : Nat) : (history.group time).name = history.name := by
  induction time with
  | zero => rfl
  | succ time ih =>
    cases found : history.actions[time]? with
    | none => rw [group_succ_of_none found, ih]
    | some action =>
      obtain ⟨outcome, -, advances, next⟩ := history.advances found
      rw [next, advances.name, ih]

/-- Peers are asked under the name of the group. -/
theorem name_of_fetch {peer name : String}
    (errand : (history.group time).errands[call]? = some (.fetch peer name key)) :
    name = history.name :=
  ((history.sound time).errand.named call _ errand).trans (history.name_eq time)

/-! ## Stored values -/

theorem loads_of_stored {value : Bytes} (stored : (history.group time).peek key = some value) :
    ∃ moment, moment < time ∧ history.Loads moment key (.ok value) := by
  induction time with
  | zero => cases stored
  | succ time ih =>
    cases found : history.actions[time]? with
    | none =>
      rw [group_succ_of_none found] at stored
      obtain ⟨moment, before, loads⟩ := ih stored
      exact ⟨moment, by omega, loads⟩
    | some action =>
      obtain ⟨outcome, -, advances, next⟩ := history.advances found
      rw [next] at stored
      rcases advances.stored key value stored with earlier | ⟨call, rfl, errand⟩
      · obtain ⟨moment, before, loads⟩ := ih earlier
        exact ⟨moment, by omega, loads⟩
      · exact ⟨time, by omega, call, found, errand⟩

/-- The results with which an action can end a computation are those of the loader, of a peer, and
of loads before. -/
theorem settles_of_concludes {action : Action} {result : GetResult}
    (found : history.actions[time]? = some action)
    (concludes : Concludes (history.group time) key action result) :
    history.Settles time key result := by
  cases concludes with
  | stored action value stored =>
    obtain ⟨moment, before, loads⟩ := loads_of_stored stored
    exact .loaded value moment before.le loads
  | fetched call peer name value errand =>
    obtain rfl := name_of_fetch errand
    exact .fetched value ⟨call, peer, found, errand⟩
  | loaded call value errand => exact .loaded value time le_rfl ⟨call, found, errand⟩
  | failed call text errand => exact .failed text ⟨call, found, errand⟩

/-! ## Gets -/

private theorem Arrives.extend (arrives : history.Arrives created call key time)
    (arrived : (history.group (time + 1)).arrivals[call]? = some key) :
    history.Arrives created call key (time + 1) := by
  refine ⟨arrives.creates, arrives.new, Nat.lt_succ_of_lt arrives.earlier, ?_⟩
  intro moment after bound
  rcases Nat.lt_succ_iff_lt_or_eq.mp (Nat.lt_succ_of_le bound) with before | rfl
  · exact arrives.stays moment after (by omega)
  · exact arrived

private theorem Gets.extend (gets : history.Gets created begun call key time)
    (known : (history.group (time + 1)).flight.key? call = some key) :
    history.Gets created begun call key (time + 1) := by
  refine ⟨gets.arrives, gets.begins, Nat.le_succ_of_le gets.reached, ?_⟩
  intro moment after bound
  rcases Nat.lt_succ_iff_lt_or_eq.mp (Nat.lt_succ_of_le bound) with before | rfl
  · exact gets.flies moment after (by omega)
  · exact known

theorem exists_arrives (arrived : (history.group time).arrivals[call]? = some key) :
    ∃ created, history.Arrives created call key time := by
  induction time with
  | zero => simp [group, create] at arrived
  | succ time ih =>
    cases found : history.actions[time]? with
    | none =>
      obtain ⟨created, arrives⟩ := ih (by rwa [group_succ_of_none found] at arrived)
      exact ⟨created, arrives.extend arrived⟩
    | some action =>
      obtain ⟨outcome, -, advances, next⟩ := history.advances found
      rcases advances.arrivals call key (by rwa [next] at arrived) with earlier | ⟨rfl, new⟩
      · obtain ⟨created, arrives⟩ := ih earlier
        exact ⟨created, arrives.extend arrived⟩
      · refine ⟨time, found, new, Nat.lt_succ_self _, ?_⟩
        intro moment after bound
        obtain rfl : moment = time + 1 := by omega
        exact arrived

theorem Arrives.gets (arrives : history.Arrives created call key time) {owner : Option String}
    (found : history.actions[time]? = some (.poll call owner)) :
    history.Gets created time call key time :=
  ⟨arrives, ⟨owner, found⟩, le_rfl, fun moment after bound => by omega⟩

/-- A get in the flight was created for its key, and was polled before. -/
theorem exists_gets_of_flying (known : (history.group time).flight.key? call = some key) :
    ∃ created begun, begun < time ∧ history.Gets created begun call key time := by
  induction time with
  | zero => simp [group, create, Flight.empty, Flight.key?] at known
  | succ time ih =>
    cases found : history.actions[time]? with
    | none =>
      obtain ⟨created, begun, before, gets⟩ := ih (by rwa [group_succ_of_none found] at known)
      exact ⟨created, begun, by omega, gets.extend known⟩
    | some action =>
      obtain ⟨outcome, -, advances, next⟩ := history.advances found
      rcases advances.calls call key (by rwa [next] at known) with
        earlier | ⟨-, arrived, owner, rfl⟩
      · obtain ⟨created, begun, before, gets⟩ := ih earlier
        exact ⟨created, begun, by omega, gets.extend known⟩
      · obtain ⟨created, arrives⟩ := exists_arrives arrived
        exact ⟨created, time, by omega, (arrives.gets found).extend known⟩

private theorem exists_gets_of_pursues {action : Action}
    (found : history.actions[time]? = some action)
    (pursues : Pursues (history.group time) action call key) :
    ∃ created begun, history.Gets created begun call key time := by
  rcases pursues with known | ⟨-, arrived, owner, rfl⟩
  · obtain ⟨created, begun, -, gets⟩ := exists_gets_of_flying known
    exact ⟨created, begun, gets⟩
  · obtain ⟨created, arrives⟩ := exists_arrives arrived
    exact ⟨created, time, arrives.gets found⟩

private theorem not_flying_of_arrived {key' : String}
    (arrived : (history.group time).arrivals[call]? = some key) :
    (history.group time).flight.key? call ≠ some key' := by
  have missing := (history.sound time).apart call (by simp [arrived])
  simp [Flight.key?, missing]

private theorem Gets.key_eq_of_pursues (gets : history.Gets created begun call key time)
    {action : Action} {key' : String} (pursues : Pursues (history.group time) action call key') :
    key' = key := by
  rcases Nat.lt_or_eq_of_le gets.reached with after | rfl
  · have known := gets.flies time after le_rfl
    rcases pursues with again | ⟨-, arrived, -⟩
    · simpa using again.symm.trans known
    · exact absurd known (not_flying_of_arrived arrived)
  · have arrived := gets.arrives.stays begun gets.arrives.earlier le_rfl
    rcases pursues with known | ⟨-, again, -⟩
    · exact absurd known (not_flying_of_arrived arrived)
    · simpa using again.symm.trans arrived

/-! ## Mail -/

/-- Mail in the mailbox of a waiting get was written by a computation of its key that ended while
the get was in the flight. -/
theorem settles_of_delivered {mailbox : Nat} {result : GetResult}
    (waits : (history.group time).flight.Waits call key mailbox)
    (mail : (history.group time).flight.mailboxes[mailbox]? = some (.delivered result)) :
    ∃ moment, moment < time ∧ history.Settles moment key result ∧
      ∀ later, moment ≤ later → later ≤ time →
        (history.group later).flight.key? call = some key := by
  induction time with
  | zero => simp [group, create, Flight.empty, Flight.Waits] at waits
  | succ time ih =>
    have known := waits.key?_eq
    cases found : history.actions[time]? with
    | none =>
      rw [group_succ_of_none found] at waits mail
      obtain ⟨moment, before, settles, flies⟩ := ih waits mail
      refine ⟨moment, by omega, settles, ?_⟩
      intro later after bound
      rcases Nat.lt_succ_iff_lt_or_eq.mp (Nat.lt_succ_of_le bound) with sooner | rfl
      · exact flies later after (by omega)
      · exact known
    | some action =>
      obtain ⟨outcome, -, advances, next⟩ := history.advances found
      rw [next] at waits mail
      obtain ⟨waited, origin⟩ := advances.mail call key mailbox result waits mail
      rcases origin with earlier | concludes
      · obtain ⟨moment, before, settles, flies⟩ := ih waited earlier
        refine ⟨moment, by omega, settles, ?_⟩
        intro later after bound
        rcases Nat.lt_succ_iff_lt_or_eq.mp (Nat.lt_succ_of_le bound) with sooner | rfl
        · exact flies later after (by omega)
        · exact known
      · refine ⟨time, by omega, settles_of_concludes found concludes, ?_⟩
        intro later after bound
        rcases Nat.lt_succ_iff_lt_or_eq.mp (Nat.lt_succ_of_le bound) with sooner | rfl
        · obtain rfl : later = time := by omega
          exact waited.key?_eq
        · exact known

/-- A get ends with the result of a computation of its key that ended after it had begun. -/
theorem Gets.settles (gets : history.Gets created begun call key time) {action : Action}
    {result : GetResult} (found : history.actions[time]? = some action)
    (resolves : Resolves (history.group time) action call key result) :
    ∃ moment, begun ≤ moment ∧ moment ≤ time ∧ history.Settles moment key result := by
  rcases resolves with concludes | ⟨mailbox, waits, mail⟩
  · exact ⟨time, gets.reached, le_rfl, settles_of_concludes found concludes⟩
  · obtain ⟨moment, before, settles, flies⟩ := settles_of_delivered waits mail
    refine ⟨moment, ?_, before.le, settles⟩
    by_contra early
    -- When the get began it was among the arrivals, and not yet in the flight.
    have known := flies begun (by omega) gets.reached
    have arrived := gets.arrives.stays begun gets.arrives.earlier le_rfl
    exact not_flying_of_arrived arrived known

/-! ## Provenance -/

/-- A get that completes is turned away, or resolved for the key that it pursues. -/
theorem Completes.ends {result : GetResult} (completes : history.Completes time call result) :
    ∃ action key, history.actions[time]? = some action ∧
      ((∃ owner, action = .poll call owner ∧
          (history.group time).arrivals[call]? = some key ∧ key = "" ∧
          result = .error .invalidKey ∧
          history.group (time + 1) = (history.group time).turnAway call) ∨
        Pursues (history.group time) action call key ∧
          Resolves (history.group time) action call key result) := by
  obtain ⟨action, outcome, found, about, stepped, finished⟩ := completes
  obtain ⟨outcome', stepped', advances, next⟩ := history.advances found
  obtain rfl : outcome' = outcome := by simpa using stepped'.symm.trans stepped
  obtain ⟨call', key, about', ends⟩ := advances.finished result finished
  obtain rfl : call' = call := by simpa using about'.symm.trans about
  rw [next]
  exact ⟨action, key, found, ends⟩

private theorem Gets.pursues (gets : history.Gets created begun call key time) {result : GetResult}
    (nonempty : key ≠ "") (completes : history.Completes time call result) :
    ∃ action, history.actions[time]? = some action ∧
      Resolves (history.group time) action call key result := by
  obtain ⟨action, key', found, ⟨owner, -, arrived, rfl, -⟩ | ⟨pursues, resolves⟩⟩ := completes.ends
  · rcases Nat.lt_or_eq_of_le gets.reached with after | rfl
    · exact absurd (gets.flies time after le_rfl) (not_flying_of_arrived arrived)
    · have same := gets.arrives.stays begun gets.arrives.earlier le_rfl
      exact absurd (by simpa using same.symm.trans arrived) nonempty
  · obtain rfl := gets.key_eq_of_pursues pursues
    exact ⟨action, found, resolves⟩

/-- In every history of a group, each get that ends was answered from its own key. -/
theorem provenance (history : History) : history.Provenance where
  runs := history.runs
  named := history.name_eq
  traced := by
    intro time call result completes
    obtain ⟨action, key, found, ⟨owner, rfl, arrived, -⟩ | ⟨pursues, -⟩⟩ := completes.ends
    · obtain ⟨created, arrives⟩ := exists_arrives arrived
      exact ⟨created, time, key, arrives.gets found⟩
    · obtain ⟨created, begun, gets⟩ := exists_gets_of_pursues found pursues
      exact ⟨created, begun, key, gets⟩
  rejected := by
    intro created begun call time result gets completes
    obtain ⟨action, key, found, ⟨owner, -, -, -, rejected, next⟩ | ⟨pursues, -⟩⟩ := completes.ends
    · refine ⟨?_, rejected, next⟩
      rcases Nat.lt_or_eq_of_le gets.reached with after | same
      · exact absurd (gets.flies time after le_rfl) ((history.sound time).keyed call)
      · exact same.symm
    · obtain rfl := gets.key_eq_of_pursues pursues
      rcases pursues with known | ⟨nonempty, -⟩
      · exact absurd known ((history.sound time).keyed call)
      · exact absurd rfl nonempty
  sourced := by
    intro created begun call key time result nonempty gets completes
    obtain ⟨action, found, resolves⟩ := gets.pursues nonempty completes
    obtain ⟨moment, since, before, settles⟩ := gets.settles found resolves
    cases settles with
    | loaded value earlier bound loads => exact .inl ⟨value, rfl, .inl ⟨earlier, by omega, loads⟩⟩
    | fetched value fetches => exact .inl ⟨value, rfl, .inr ⟨moment, since, before, fetches⟩⟩
    | failed text loads => exact .inr ⟨text, moment, rfl, since, before, loads⟩

/-- A get falls back to the loader when the peer that owns its key fails, and another get of the key
that was polled meanwhile is answered with it. -/
example : ((create "scores" {}).run [.registerPeers, .call 1 "Tom", .call 2 "Tom",
      .poll 1 (some "peer"), .poll 2 (some "peer"),
      .fetched 1 (.error (.peerUnavailable "peer" "gone")), .loaded 1 (.ok [54, 51]),
      .poll 2 none]).map (fun (_, outcomes) => outcomes.filterMap Outcome.progress) =
    .ok [.asks (.fetch "peer" "scores" "Tom"), .waits, .asks (.load "Tom"),
      .finished (.ok [54, 51]), .finished (.ok [54, 51])] := by
  decide +kernel

end History

end PeerCache.Group
