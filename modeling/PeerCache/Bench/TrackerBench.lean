import PeerCache.Eviction.Tracker

/-! # A bench for eviction trackers

A tracker together with the slots it has handed out, so that a key can be touched by the number of
the push that brought it in.
-/

namespace PeerCache.Bench

open Eviction (Policy Tracker)

/-- A tracker, and the slot of every push so far. -/
structure TrackerBench where
  tracker : Tracker
  slots : Array Nat

namespace TrackerBench

/-- The bench of an empty tracker. -/
def empty (policy : Policy) : TrackerBench := { tracker := .empty policy, slots := #[] }

/-- Track a key. Answers the number of this push, counted from zero. -/
def push (bench : TrackerBench) (key : String) : Checked (Nat × TrackerBench) := do
  let (slot, tracker) ← bench.tracker.push key
  return (bench.slots.size, { tracker, slots := bench.slots.push slot })

/-- Touch the key of a push. -/
def touch (bench : TrackerBench) (push : Nat) : Checked TrackerBench :=
  match bench.slots[push]? with
  | none => .error (.unknown push)
  | some slot => do return { bench with tracker := ← bench.tracker.touch slot }

/-- Stop tracking the next victim. -/
def pop (bench : TrackerBench) : Checked (Option String × TrackerBench) := do
  match ← bench.tracker.pop with
  | none => return (none, bench)
  | some (key, tracker) => return (some key, { bench with tracker })

end TrackerBench

end PeerCache.Bench
