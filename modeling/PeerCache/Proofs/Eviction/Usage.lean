import Mathlib
import PeerCache.Eviction.Run

/-! # Histories of a container

A container starts empty and is used. The state at each time and the reply at each moment can be
read off from the uses, as long as none of them faults.
-/

namespace PeerCache.Eviction

/-- Whether a use puts a value in or touches one. -/
def Use.ticks {α : Type} : Use α → Bool
  | .push _ | .touch _ => true
  | .pop => false

namespace Container

variable {σ α : Type}

/-- The state after a use. A fault would leave it as it is. -/
def advance (container : Container σ α) (state : σ) (use : Use α) : σ :=
  match container.step state use with
  | .ok (after, _) => after
  | .error _ => state

section Definitions

variable (container : Container σ α) (uses : List (Use α))

/-- The state at a time, which is the one that the use at that time meets. -/
def state (time : Nat) : σ := (uses.take time).foldl container.advance container.empty

/-- The reply to the use at a moment. -/
def reply? (moment : Nat) : Option (Reply α) :=
  match uses[moment]?.map (container.step (container.state uses moment)) with
  | some (.ok (_, reply)) => some reply
  | _ => none

/-- The slot under which a value was put in at a moment. -/
def slot? (moment : Nat) : Option Nat := (container.reply? uses moment).bind Reply.slot?

/-- No use of a history faults, and the run replies what the history does. -/
def Runs : Prop := ∀ time, container.run container.empty (uses.take time) =
  .ok (container.state uses time, (List.range time).filterMap (container.reply? uses))

end Definitions

variable {container : Container σ α} {uses : List (Use α)} {state after middle final : σ}
  {time slot : Nat} {value : α} {use : Use α} {reply : Reply α}

theorem step_of_push (pushed : container.push state value = .ok (slot, after)) :
    container.step state (.push value) = .ok (after, .placed slot) := by
  rw [step, pushed]
  rfl

theorem step_of_touch (touched : container.touch state slot = .ok after) :
    container.step state (.touch slot) = .ok (after, .touched) := by
  rw [step, touched]
  rfl

theorem step_of_pop (popped : container.pop state = .ok (some (value, after))) :
    container.step state .pop = .ok (after, .taken (some value)) := by
  rw [step, popped]
  rfl

theorem step_of_empty (popped : container.pop state = .ok none) :
    container.step state .pop = .ok (state, .taken none) := by
  rw [step, popped]
  rfl

theorem state_succ_of_none (past : uses[time]? = none) :
    container.state uses (time + 1) = container.state uses time := by
  rw [Container.state, List.take_add_one, past, Option.toList_none, List.append_nil]
  rfl

private theorem reply?_of_none (past : uses[time]? = none) : container.reply? uses time = none := by
  rw [reply?, past]
  rfl

theorem advances (found : uses[time]? = some use)
    (stepped : container.step (container.state uses time) use = .ok (after, reply)) :
    container.state uses (time + 1) = after ∧ container.reply? uses time = some reply := by
  constructor
  · rw [Container.state, List.take_add_one, found, Option.toList_some, List.foldl_append]
    change container.advance (container.state uses time) use = after
    rw [advance, stepped]
  · rw [reply?, found, Option.map_some, stepped]

theorem slot?_of_push (found : uses[time]? = some (.push value))
    (pushed : container.push (container.state uses time) value = .ok (slot, after)) :
    container.slot? uses time = some slot := by
  rw [slot?, (advances found (step_of_push pushed)).2]
  rfl

private theorem run_append {first second : List (Use α)} {earlier later : List (Reply α)}
    (ran : container.run state first = .ok (middle, earlier))
    (ran' : container.run middle second = .ok (final, later)) :
    container.run state (first ++ second) = .ok (final, earlier ++ later) := by
  induction first generalizing state earlier with
  | nil =>
    cases ran
    exact ran'
  | cons use rest ih =>
    obtain ⟨⟨next, reply⟩, stepped, ran⟩ := Checked.bind_eq_ok_iff.mp ran
    obtain ⟨⟨last, replies⟩, continued, same⟩ := Checked.bind_eq_ok_iff.mp ran
    cases same
    have whole := ih continued
    simp only [List.cons_append, run, stepped, whole, bind, Except.bind]
    rfl

/-- A history in which no use faults runs. -/
theorem runs_of_step (steps : ∀ moment use, uses[moment]? = some use → ∃ after reply,
    container.step (container.state uses moment) use = .ok (after, reply)) :
    container.Runs uses := by
  intro time
  induction time with
  | zero => rfl
  | succ time ih =>
    rw [List.take_add_one, List.range_succ, List.filterMap_append]
    cases found : uses[time]? with
    | none =>
      rw [Option.toList_none, List.append_nil, state_succ_of_none found]
      simp [reply?_of_none found, ih]
    | some use =>
      obtain ⟨after, reply, stepped⟩ := steps time use found
      obtain ⟨rfl, replied⟩ := advances found stepped
      refine run_append ih ?_
      simp [run, stepped, replied, bind, Except.bind, pure, Except.pure]

end Container

end PeerCache.Eviction
