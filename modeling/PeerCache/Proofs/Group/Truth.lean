import PeerCache.Proofs.Group.Errands

/-! # Groups that tell the truth

A group that stores only what a loader gives, and sends nothing else to those that wait, goes on to
do so if nothing else is brought to its computations: from the loader its answer, and from a peer
the value that the loader gives, or a failure, whatever the cause. Then every get comes to what the
loader gives for its key.
-/

namespace PeerCache.Group

/-- The key of a live get. -/
def keyOf? (group : Group) (call : Nat) : Option String :=
  (group.arrivals[call]?).or (group.flight.key? call)

/-- What is stored, and what is on its way to those that wait, is what the loader gives. -/
structure Truthful (load : String → Except String Bytes) (group : Group) : Prop where
  sound : group.Sound
  stored : ∀ key value, group.peek key = some value → load key = .ok value
  mail : ∀ call key mailbox result, group.flight.Waits call key mailbox →
    group.flight.mailboxes[mailbox]? = some (.delivered result) →
    result = (load key).mapError .loader

/-- What an action brings to a computation is what the loader gives, or the failure of a peer. -/
structure Honest (load : String → Except String Bytes) (group : Group) (action : Action) :
    Prop where
  fetched : ∀ call peer name key value, action = .fetched call (.ok value) →
    group.errands[call]? = some (.fetch peer name key) → load key = .ok value
  loaded : ∀ call key result, action = .loaded call result →
    group.errands[call]? = some (.load key) → result = load key

variable {group : Group} {load : String → Except String Bytes} {action : Action} {outcome : Outcome}
  {call : Nat} {key : String} {result : GetResult}

theorem truthful_create (load : String → Except String Bytes) (name : String)
    (plan : Storage.Plan) :
    (create name plan).Truthful load where
  sound := sound_create name plan
  stored := by
    intro key value stored
    cases stored
  mail := by simp [create, Flight.empty, Flight.Waits]

theorem Truthful.count (truthful : group.Truthful load) (stats : Stats) :
    { group with stats }.Truthful load :=
  ⟨truthful.sound.restock _ truthful.sound.stored stats, truthful.stored, truthful.mail⟩

theorem keyOf?_of_arrived (arrived : group.arrivals[call]? = some key) :
    group.keyOf? call = some key := by
  rw [keyOf?, arrived, Option.some_or]

theorem Sound.keyOf?_of_flying (sound : group.Sound) (known : group.flight.key? call = some key) :
    group.keyOf? call = some key := by
  have unarrived : group.arrivals[call]? = none := by
    by_contra arrived
    simp [Flight.key?, sound.apart call arrived] at known
  rw [keyOf?, unarrived, Option.none_or, known]

theorem Sound.keyOf?_of_pursues (sound : group.Sound) (pursues : Pursues group action call key) :
    group.keyOf? call = some key := by
  rcases pursues with known | ⟨-, arrived, -⟩
  · exact sound.keyOf?_of_flying known
  · exact keyOf?_of_arrived arrived

theorem Sound.nonempty_of_pursues (sound : group.Sound) (pursues : Pursues group action call key) :
    key ≠ "" := by
  rintro rfl
  rcases pursues with known | ⟨nonempty, -⟩
  · exact sound.keyed call known
  · exact nonempty rfl

private theorem Truthful.concludes (truthful : group.Truthful load)
    (honest : Honest load group action)
    (concludes : Concludes group key action result) : result = (load key).mapError .loader := by
  cases concludes with
  | stored action value stored => rw [truthful.stored key value stored]; rfl
  | fetched call peer name value errand =>
    rw [honest.fetched call peer name key value rfl errand]
    rfl
  | loaded call value errand => rw [← honest.loaded call key (.ok value) rfl errand]; rfl
  | failed call text errand => rw [← honest.loaded call key (.error text) rfl errand]; rfl

/-- An honest action leaves a group truthful, and ends a get with what the loader gives. -/
theorem Truthful.step (truthful : group.Truthful load) (honest : Honest load group action)
    (stepped : group.step action = .ok outcome) :
    outcome.group.Truthful load ∧ outcome.group.name = group.name ∧
      ∀ result, outcome.progress = some (.finished result) →
        ∃ call key, action.get? = some call ∧ group.keyOf? call = some key ∧
          result = if key = "" then .error .invalidKey else (load key).mapError .loader := by
  have advances := truthful.sound.advances stepped
  refine ⟨⟨advances.sound, ?_, ?_⟩, advances.name, ?_⟩
  · intro key value stored
    rcases advances.stored key value stored with before | ⟨call, rfl, errand⟩
    · exact truthful.stored key value before
    · exact (honest.loaded call key (.ok value) rfl errand).symm
  · intro call key mailbox result waits mail
    obtain ⟨waited, before | concludes⟩ := advances.mail call key mailbox result waits mail
    · exact truthful.mail call key mailbox result waited before
    · exact truthful.concludes honest concludes
  · intro result ends
    obtain ⟨call, key, about, ⟨owner, -, arrived, rfl, refused, -⟩ | ⟨pursues, resolves⟩⟩ :=
      advances.finished result ends
    · exact ⟨call, "", about, keyOf?_of_arrived arrived, refused⟩
    · refine ⟨call, key, about, truthful.sound.keyOf?_of_pursues pursues, ?_⟩
      rw [if_neg (truthful.sound.nonempty_of_pursues pursues)]
      rcases resolves with concludes | ⟨mailbox, waits, mail⟩
      · exact truthful.concludes honest concludes
      · exact truthful.mail call key mailbox result waits mail

end PeerCache.Group
