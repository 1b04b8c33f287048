import PeerCache.Proofs.Group.Errands
import PeerCache.Proofs.Group.Loading

/-! # The discipline of computations

What a group asks its surroundings for falls into computations. A computation belongs to one get. It
starts when its key is not stored and nobody else computes it, asks the peer that the picker names,
if there is one, and asks the loader if there is none or if the fetch has failed. Until it is over
nobody else computes its key, and nothing comes to be stored for the key but what it loads itself.
-/

namespace PeerCache.Group.History

section Definitions

variable (history : History)

/-- What a get asks for with the action at a moment. -/
def asked? (call moment : Nat) : Option Request :=
  (history.actions[moment]?).bind fun action =>
    if action.get? = some call then
      match (history.group moment).step action with
      | .ok ⟨_, some (.asks request), _⟩ => some request
      | _ => none
    else none

/-- Everything that a get has asked for since a moment and before a time, in order. -/
def requests (call started time : Nat) : List Request :=
  (List.range' started (time - started)).filterMap (history.asked? call)

/-- A get needed nothing, and asks for something for the key now. -/
def Starts (started call : Nat) (key : String) : Prop :=
  (history.group started).errands[call]? = none ∧
    ∃ request, history.asked? call started = some request ∧ request.key = key

/-- The computation of a get for the key has started, and has needed something ever since. -/
structure Computes (started call : Nat) (key : String) (time : Nat) : Prop where
  starts : history.Starts started call key
  earlier : started < time
  needs : ∀ moment, started < moment → moment ≤ time →
    ∃ request, (history.group moment).errands[call]? = some request ∧ request.key = key

end Definitions

variable {history : History} {time call started created begun : Nat} {key : String}
  {request next : Request} {action : Action}

/-! ## Asking -/

private theorem asked?_eq_some_iff {outcome : Outcome}
    (found : history.actions[time]? = some action)
    (stepped : (history.group time).step action = .ok outcome) :
    history.asked? call time = some request ↔
      action.get? = some call ∧ outcome.progress = some (.asks request) := by
  obtain ⟨group, progress, departures⟩ := outcome
  simp only [asked?, found, Option.bind_some, stepped]
  split
  case isFalse elsewhere => simp [elsewhere]
  case isTrue about =>
    rcases progress with _ | (_ | _ | _ | _ | _) <;> simp [about]

private theorem asked?_of_none (past : history.actions[time]? = none) :
    history.asked? call time = none := by
  rw [asked?, past]
  rfl

/-- A get that computes needs something, so it cannot start again. -/
private theorem Computes.started_le {started' : Nat} {key' : String}
    (computes : history.Computes started call key time)
    (computes' : history.Computes started' call key' time) : started' ≤ started := by
  by_contra later
  obtain ⟨request, errand, -⟩ := computes.needs started' (by omega) computes'.earlier.le
  simp [computes'.starts.1] at errand

theorem Computes.unique {other started' : Nat}
    (computes : history.Computes started call key time)
    (computes' : history.Computes started' other key time) : call = other ∧ started = started' := by
  obtain ⟨request, errand, rfl⟩ := computes.needs time computes.earlier le_rfl
  obtain ⟨request', errand', same⟩ := computes'.needs time computes'.earlier le_rfl
  obtain rfl := (history.sound time).errand_unique errand errand' same.symm
  exact ⟨rfl, Nat.le_antisymm (computes'.started_le computes) (computes.started_le computes')⟩

/-- A computation starts with the poll of a get that does not find its key, when nobody else
computes it. -/
theorem Starts.polled (starts : history.Starts started call key) :
    (history.group started).peek key = none ∧
      (∀ (other : Nat) (request : Request), (history.group started).errands[other]? = some request →
        request.key ≠ key) ∧
      ∃ owner, history.actions[started]? = some (.poll call owner) ∧
        history.asked? call started =
          some (.first history.name
            (if (history.group started).hasPeers then owner else none) key) := by
  obtain ⟨unasked, request, asked, rfl⟩ := starts
  cases found : history.actions[started]? with
  | none => simp [asked?_of_none found] at asked
  | some action =>
    obtain ⟨outcome, stepped, advances, next⟩ := history.advances found
    obtain ⟨about, asks⟩ := (asked?_eq_some_iff found stepped).mp asked
    rcases asks_of_step (history.sound started) stepped asks with
      ⟨other, owner, rfl, -, opens, missing, errand⟩ | ⟨other, peer, cause, rfl, fetch, -⟩
    · obtain rfl : other = call := Option.some.inj about
      rw [opening, history.name_eq] at opens
      refine ⟨missing, ?_, owner, rfl, asked.trans (congrArg some opens)⟩
      intro third request' errand' same
      -- an older errand for the key is still there after the poll, and one key has one errand
      have third_ne : (Action.poll other owner).get? ≠ some third := by
        rintro ⟨⟩
        simp [unasked] at errand'
      have kept := errand_of_elsewhere (history.sound started) stepped third_ne
      have rival := advances.sound.errand_unique (kept.trans errand') errand same
      exact third_ne (congrArg some rival.symm)
    · obtain rfl : other = call := Option.some.inj about
      simp [unasked] at fetch

/-- A get that is cancelled between its fetch and its load has asked for both, and the get that
takes over finds the picker registered, asks for a fetch of its own, and loads. -/
example :
    let history : History := ⟨"scores", {}, [.registerPeers, .call 1 "Tom", .call 2 "Tom",
      .poll 1 (some "peer"), .poll 2 (some "peer"), .fetched 1 (.error .invalidKey), .drop 1,
      .poll 2 (some "peer"), .fetched 2 (.error .invalidKey), .loaded 2 (.ok [54])]⟩
    history.requests 1 3 6 = [.fetch "peer" "scores" "Tom", .load "Tom"] ∧
      history.requests 2 7 9 = [.fetch "peer" "scores" "Tom", .load "Tom"] := by
  decide +kernel

end PeerCache.Group.History
