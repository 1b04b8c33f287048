import PeerCache.Eviction.FrequencyHeap
import PeerCache.Eviction.LinkedList
import PeerCache.Eviction.Policy

/-! # Eviction trackers

A tracker knows the stored keys in the order in which they will leave. It hands out a slot for every
key, valid until that key is popped, and is told through the slot when the key is read or
overwritten. All three policies take a read and an overwrite for the same thing, a touch.
-/

namespace PeerCache.Eviction

/-- The keys of a storage in their order of eviction. -/
inductive Tracker where
  /-- The front key was touched longest ago. -/
  | lru (keys : LinkedList String)
  /-- The front key was inserted longest ago. -/
  | fifo (keys : LinkedList String)
  /-- The top key was touched least often. -/
  | lfu (keys : FrequencyHeap)
deriving Repr

namespace Tracker

/-- A tracker of no keys. -/
def empty : Policy → Tracker
  | .lru => .lru .empty
  | .fifo => .fifo .empty
  | .lfu => .lfu .empty

/-- The policy that a tracker follows. -/
def policy : Tracker → Policy
  | .lru _ => .lru
  | .fifo _ => .fifo
  | .lfu _ => .lfu

/-- Track a new key. Answers the slot through which it is referred to. -/
def push (tracker : Tracker) (key : String) : Checked (Nat × Tracker) :=
  match tracker with
  | .lru keys => do
    let (slot, keys) ← keys.pushBack key
    return (slot, .lru keys)
  | .fifo keys => do
    let (slot, keys) ← keys.pushBack key
    return (slot, .fifo keys)
  | .lfu keys => do
    let (slot, keys) ← keys.push key
    return (slot, .lfu keys)

/-- Stop tracking the next victim, and answer its key. -/
def pop : Tracker → Checked (Option (String × Tracker))
  | .lru keys => do return (← keys.popFront).map fun (key, keys) => (key, .lru keys)
  | .fifo keys => do return (← keys.popFront).map fun (key, keys) => (key, .fifo keys)
  | .lfu keys => do return (← keys.pop).map fun (key, keys) => (key, .lfu keys)

/-- Note that the key at a slot was read or overwritten. The order of insertion ignores it. -/
def touch (tracker : Tracker) (slot : Nat) : Checked Tracker :=
  match tracker with
  | .lru keys => do return .lru (← keys.moveToBack slot)
  | .fifo keys => .ok (.fifo keys)
  | .lfu keys => do return .lfu (← keys.bump slot)

/-- The tracked keys, the next victim first. -/
def order : Tracker → Checked (List String)
  | .lru keys => keys.toList
  | .fifo keys => keys.toList
  | .lfu keys => keys.sorted

/-- The number of tracked keys. -/
def size : Tracker → Nat
  | .lru keys => keys.length
  | .fifo keys => keys.length
  | .lfu keys => keys.size

/-- Whether no key is tracked. -/
def isEmpty (tracker : Tracker) : Bool := tracker.size == 0

end Tracker

end PeerCache.Eviction
