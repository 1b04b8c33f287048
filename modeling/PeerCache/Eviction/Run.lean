import PeerCache.Eviction.FrequencyHeap
import PeerCache.Eviction.LinkedList

/-! # Runs of a container

Heaps and lists are used alike from outside: a value is put in and gets a slot, what is in there is
touched through its slot, and what is next is taken out. A run is a list of such uses and leaves a
list of replies.
-/

namespace PeerCache.Eviction

/-- What a caller does to a container. -/
inductive Use (α : Type) where
  /-- Put a value in. -/
  | push (value : α)
  /-- Touch what is under a slot. -/
  | touch (slot : Nat)
  /-- Take the next value out. -/
  | pop
deriving DecidableEq, Repr

/-- What a container replies. -/
inductive Reply (α : Type) where
  /-- A value was put in, under a slot. -/
  | placed (slot : Nat)
  /-- What is under the slot was touched. -/
  | touched
  /-- A value was taken out, if there was any. -/
  | taken (value : Option α)
deriving DecidableEq, Repr

/-- The slot in a reply. -/
def Reply.slot? {α : Type} : Reply α → Option Nat
  | .placed slot => some slot
  | .touched | .taken _ => none

/-- Containers of a kind, and how they are used. -/
structure Container (σ α : Type) where
  empty : σ
  push : σ → α → Checked (Nat × σ)
  touch : σ → Nat → Checked σ
  pop : σ → Checked (Option (α × σ))

/-- A heap of keys, in which a touch raises the frequency of a key. -/
def FrequencyHeap.container : Container FrequencyHeap String where
  empty := empty
  push := push
  touch := bump
  pop := pop

/-- A list of values, in which a touch moves a value to the back. -/
def LinkedList.container (α : Type) : Container (LinkedList α) α where
  empty := empty
  push := pushBack
  touch := moveToBack
  pop := popFront

namespace Container

variable {σ α : Type} (container : Container σ α)

/-- Perform one use. -/
def step (state : σ) : Use α → Checked (σ × Reply α)
  | .push value => do
    let (slot, state) ← container.push state value
    return (state, .placed slot)
  | .touch slot => do return (← container.touch state slot, .touched)
  | .pop => do
    match ← container.pop state with
    | some (value, state) => return (state, .taken (some value))
    | none => return (state, .taken none)

/-- Perform uses in order. Answers the state at the end and the reply to each use. -/
def run (state : σ) : List (Use α) → Checked (σ × List (Reply α))
  | [] => .ok (state, [])
  | use :: rest => do
    let (state, reply) ← container.step state use
    let (final, later) ← run state rest
    return (final, reply :: later)

end Container

end PeerCache.Eviction
