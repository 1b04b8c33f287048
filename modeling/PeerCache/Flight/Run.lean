import PeerCache.Flight.Basic

/-! # Runs of a flight

A flight seen from outside: calls are created, polled and dropped, in any order. How far a
computation gets is up to its surroundings, so a poll says with which value the computation of that
call would return if the poll reached it. A run is a list of such actions, and leaves a list of
events.
-/

namespace PeerCache.Flight

variable {α : Type}

/-- What a caller does. -/
inductive Action (α : Type) where
  /-- Create a call on a key. -/
  | call (call : Nat) (key : String)
  /-- Poll a call, whose computation would return `ready`, or suspend again if that is `none`. -/
  | poll (call : Nat) (ready : Option α)
  /-- Cancel a call. -/
  | drop (call : Nat)
deriving DecidableEq, Repr

/-- What a computation does. -/
inductive Event (α : Type) where
  /-- The computation of this call starts. -/
  | started (call : Nat)
  /-- The computation of this call returns a value. -/
  | finished (call : Nat) (value : α)
deriving DecidableEq, Repr

/-- What an action answers. -/
inductive Answer (α : Type) where
  /-- Nothing: the call was created. -/
  | created
  /-- There is no such call. -/
  | absent
  /-- The call is suspended. -/
  | pending
  /-- The call returned a value. -/
  | returned (value : α)
  /-- Whether there was a call to cancel. -/
  | dropped (existed : Bool)
deriving DecidableEq, Repr

/-- The answer and the events of an action, and the flight after it. -/
structure Outcome (α : Type) where
  flight : Flight α
  answer : Answer α
  events : List (Event α)

/-- Let the computation of a leading call go on, after the events of this poll so far. -/
def compute (flight : Flight α) (call : Nat) (ready : Option α) (events : List (Event α)) :
    Outcome α :=
  match ready with
  | none => ⟨flight, .pending, events⟩
  | some value => ⟨flight.conclude call value, .returned value, events ++ [.finished call value]⟩

/-- Poll a call as far as it goes. -/
def poll (flight : Flight α) (call : Nat) (ready : Option α) : Outcome α :=
  match flight.attend call with
  | (flight, .absent) => ⟨flight, .absent, []⟩
  | (flight, .waiting) => ⟨flight, .pending, []⟩
  | (flight, .received value) => ⟨flight, .returned value, []⟩
  | (flight, .leading) => flight.compute call ready []
  | (flight, .started) => flight.compute call ready [.started call]

/-- Perform one action. -/
def step (flight : Flight α) : Action α → Outcome α
  | .call call key => ⟨flight.enter call key, .created, []⟩
  | .poll call ready => flight.poll call ready
  | .drop call => ⟨flight.drop call, .dropped (flight.calls.contains call), []⟩

/-- Perform actions in order. Answers the flight at the end and what each action led to. -/
def run (flight : Flight α) : List (Action α) → Flight α × List (Answer α × List (Event α))
  | [] => (flight, [])
  | action :: rest =>
    let outcome := flight.step action
    let (final, later) := outcome.flight.run rest
    (final, (outcome.answer, outcome.events) :: later)

end PeerCache.Flight
