import PeerCache.Bench.Gates
import PeerCache.Flight.Run

/-! # A bench for flights

A flight of texts whose computations are scripted: each call says what it would return, and whether
it has to pass a gate of its own first. The bench keeps a log of computations that start and that
return.
-/

namespace PeerCache.Bench

/-- What a call would compute. -/
structure Script where
  value : String
  gated : Bool
deriving DecidableEq, Repr

/-- A flight, the scripts of its calls, and the gates in front of them. -/
structure FlightBench where
  flight : Flight String
  scripts : Std.ExtTreeMap Nat Script
  gates : Gates

namespace FlightBench

/-- The bench without calls. -/
def empty : FlightBench := { flight := .empty, scripts := ∅, gates := .closed }

/-- The gate of a call. -/
def gate (call : Nat) : String := toString call

/-- Create a call. -/
def call (bench : FlightBench) (call : Nat) (key : String) (script : Script) : FlightBench :=
  { bench with
    flight := bench.flight.enter call key
    scripts := bench.scripts.insert call script }

/-- Add a permit to the gate of a call. -/
def allow (bench : FlightBench) (call : Nat) : FlightBench :=
  { bench with gates := bench.gates.allow (gate call) }

/-- Poll a call. Only a computation that returns uses up its permit. -/
def poll (bench : FlightBench) (call : Nat) :
    FlightBench × Flight.Answer String × List (Flight.Event String) :=
  match bench.scripts[call]? with
  | none => (bench, .absent, [])
  | some script =>
    let passed := if script.gated then bench.gates.pass? (gate call) else some bench.gates
    let outcome := bench.flight.poll call (passed.map fun _ => script.value)
    let returned := outcome.events.contains (.finished call script.value)
    let gates := if returned then passed.getD bench.gates else bench.gates
    ({ bench with flight := outcome.flight, gates }, outcome.answer, outcome.events)

/-- Poll every live call once, in increasing order. -/
def pollAll (bench : FlightBench) :
    FlightBench × List (Nat × Flight.Answer String) × List (Flight.Event String) :=
  bench.flight.calls.keys.foldl
    (fun (bench, answers, events) call =>
      let (bench, answer, more) := bench.poll call
      (bench, answers ++ [(call, answer)], events ++ more))
    (bench, [], [])

/-- Cancel a call. Answers whether there was one. -/
def drop (bench : FlightBench) (call : Nat) : FlightBench × Bool :=
  ({ bench with flight := bench.flight.drop call }, bench.flight.calls.contains call)

end FlightBench

end PeerCache.Bench
