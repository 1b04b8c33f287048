import PeerCache.Proofs.Group.Provenance
import PeerCache.Proofs.Storage.Changes

/-! # What a group does with its storage

A group builds its storage late, looks into it twice for every computation, and is called by gets
that wait, fail or are cancelled. Its storage knows nothing of this. It is a storage that was built
together with the group, was read once for every get that was polled, and was given every value that
the loader gave: all other actions leave it as it is. One action of the group is at most one action
of the storage, and the run follows by induction on the time.
-/

namespace PeerCache

namespace Group

/-- The storage of a group, or the one that it would build. -/
def holding (group : Group) : Storage := group.storage.getD group.plan.build

/-- A storage that is still to be built shows nothing, as it will when it is built. -/
theorem shown_holding (group : Group) : group.size = group.holding.size ∧
    group.usage = group.holding.usage ∧ ∀ key, group.peek key = group.holding.peek key := by
  cases stored : group.storage with
  | none =>
    simp [size, usage, peek, holding, stored, Storage.Plan.build, Storage.size, Storage.peek]
  | some storage => simp [size, usage, peek, holding, stored]

/-- What an action does with the storage. The first poll of a get that is not of the empty key reads
it, and a value that the loader gives to a computation is added. -/
def use? (group : Group) : Action → Option Storage.Action
  | .poll call _ =>
    (group.arrivals[call]?).bind fun key => if key = "" then none else some (.get key)
  | .loaded call (.ok value) =>
    match group.errands[call]? with
    | some (.load key) => some (.add key value)
    | _ => none
  | _ => none

/-- A change of a group does this with its storage, and these entries leave. -/
inductive Handles (group next : Group) : Option Storage.Action → List Departure → Prop
  | nothing (plan : next.plan = group.plan) (same : next.storage = group.storage) :
      Handles group next none []
  | once (action : Storage.Action) (answer : Storage.Answer) (plan : next.plan = group.plan)
      (stepped : group.holding.step action = .ok (next.holding, answer)) :
      Handles group next (some action) answer.departures

/-! ## Actions that leave the storage alone -/

section Steps

variable {group next : Group} {call : Nat} {key : String} {owner : Option String}
  {progress : Progress}

private theorem storage_compute (group : Group) (call : Nat) (key : String)
    (owner : Option String) :
    (group.compute call key owner).1.storage = group.storage ∧
      (group.compute call key owner).1.plan = group.plan := by
  unfold compute
  split
  · exact ⟨rfl, rfl⟩
  · dsimp only
    split <;> exact ⟨rfl, rfl⟩

private theorem storage_pollFlight (answered : group.pollFlight call owner = .ok (next, progress)) :
    next.storage = group.storage ∧ next.plan = group.plan := by
  unfold pollFlight at answered
  rcases attended : group.flight.attend call with ⟨flight, attendance⟩
  simp only [attended] at answered
  cases attendance with
  | absent | waiting | received =>
    cases answered
    exact ⟨rfl, rfl⟩
  | leading =>
    simp only at answered
    split at answered
    · cases answered
      exact ⟨rfl, rfl⟩
    · cases answered
  | started =>
    simp only at answered
    split at answered
    · next key _ =>
      have kept := storage_compute { group with flight } call key owner
      rw [Except.ok.inj answered] at kept
      exact kept
    · cases answered

/-! ## Actions that use the storage -/

/-- A lookup reads the storage, and would find nothing in one that is still to be built. -/
private theorem lookup_holding {value : Option Bytes}
    (looked : group.lookup key = .ok (value, next)) : next.plan = group.plan ∧
      group.holding.step (.get key) = .ok (next.holding, .found value) := by
  unfold lookup at looked
  cases stored : group.storage with
  | none =>
    simp only [stored] at looked
    cases looked
    refine ⟨rfl, ?_⟩
    have nothing : group.plan.build.get key = .ok (none, group.plan.build) := by
      simp [Storage.get, Storage.Plan.build]
    simp only [holding, stored, Option.getD_none, Storage.step, nothing, bind, Except.bind]
    rfl
  | some storage =>
    simp only [stored] at looked
    obtain ⟨⟨found, read⟩, got, looked⟩ := Checked.bind_eq_ok_iff.mp looked
    cases looked
    refine ⟨rfl, ?_⟩
    simp only [holding, stored, Option.getD_some, Storage.step, got, bind, Except.bind]
    rfl

private theorem begin_handles (begun : group.begin call key owner = .ok (next, progress)) :
    Handles group next (if key = "" then none else some (.get key)) [] := by
  unfold Group.begin at begun
  split
  case isTrue empty =>
    simp only [if_pos empty] at begun
    cases begun
    exact .nothing rfl rfl
  case isFalse nonempty =>
    simp only [if_neg nonempty] at begun
    obtain ⟨⟨value, read⟩, looked, begun⟩ := Checked.bind_eq_ok_iff.mp begun
    obtain ⟨plan, stepped⟩ := lookup_holding looked
    have ends : next.storage = read.storage ∧ next.plan = read.plan := by
      cases value with
      | some value =>
        cases begun
        exact ⟨rfl, rfl⟩
      | none =>
        have entered := storage_pollFlight begun
        exact entered
    have held : next.holding = read.holding := by rw [holding, holding, ends.1, ends.2]
    refine .once (.get key) (.found value) (ends.2.trans plan) ?_
    rw [held]
    exact stepped

private theorem populate_holding {value : Bytes} {departures : List Departure}
    (populated : group.populate key value = .ok (departures, next)) : next.plan = group.plan ∧
      group.holding.step (.add key value) = .ok (next.holding, .departed departures) := by
  obtain ⟨⟨left, storage⟩, added, populated⟩ := Checked.bind_eq_ok_iff.mp populated
  cases populated
  refine ⟨rfl, ?_⟩
  simp only [Storage.step, holding, added, bind, Except.bind]
  rfl

/-- One action of a group is at most one action of its storage. -/
theorem handles_of_step {action : Action} {outcome : Outcome}
    (stepped : group.step action = .ok outcome) :
    Handles group outcome.group (group.use? action) outcome.departures := by
  cases occurs_of_step stepped with
  | calls call key => refine .nothing ?_ ?_ <;> unfold Group.call <;> split <;> rfl
  | begins call owner key next progress arrived begun =>
    simp only [use?, arrived]
    exact begin_handles begun
  | resumes call owner next progress unarrived answered =>
    obtain ⟨same, plan⟩ := storage_pollFlight answered
    simp only [use?, unarrived]
    exact .nothing plan same
  | loads call key value stats departures filled errand populated =>
    obtain ⟨plan, added⟩ := populate_holding populated
    simp only [use?, errand]
    exact .once (.add key value) (.departed departures) plan added
  | unloaded call result unasked =>
    cases result with
    | ok value =>
      simp only [use?]
      exact .nothing rfl rfl
    | error text => exact .nothing rfl rfl
  | fetches | turns | fails | unfetched | drops | registers | registered => exact .nothing rfl rfl

end Steps

end Group

end PeerCache
