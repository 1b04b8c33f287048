import PeerCache.Eviction.Arena

/-! # Linked lists over slots

A doubly linked list whose nodes live in an arena and link to each other by slot number. The slot of
a node is its handle: it stays valid until the node is taken off the front, so that a node can be
moved to the back without a search. `forward` and `backward` follow the links in either direction,
and `toList` is the sequence of values that the list stands for.
-/

namespace PeerCache.Eviction

/-- A value and the slots of its neighbours. -/
structure Node (α : Type) where
  value : α
  previous : Option Nat
  next : Option Nat
deriving DecidableEq, Repr

/-- A doubly linked list with its ends and its length. -/
structure LinkedList (α : Type) where
  arena : Arena (Node α) := {}
  head : Option Nat := none
  tail : Option Nat := none
  length : Nat := 0
deriving Repr

namespace LinkedList

variable {α : Type}

/-- The list without nodes. -/
def empty : LinkedList α := {}

/-- Whether there is no node. -/
def isEmpty (list : LinkedList α) : Bool := list.length == 0

/-- Let the node at `before`, or the head if there is none, be followed by `slot`. -/
def setNext (list : LinkedList α) (before slot : Option Nat) : Checked (LinkedList α) :=
  match before with
  | some before => do
    return { list with arena := ← list.arena.modify before ({ · with next := slot }) }
  | none => .ok { list with head := slot }

/-- Let the node at `after`, or the tail if there is none, be preceded by `slot`. -/
def setPrevious (list : LinkedList α) (after slot : Option Nat) : Checked (LinkedList α) :=
  match after with
  | some after => do
    return { list with arena := ← list.arena.modify after ({ · with previous := slot }) }
  | none => .ok { list with tail := slot }

/-- Append a value at the back. Answers the slot of its node. -/
def pushBack (list : LinkedList α) (value : α) : Checked (Nat × LinkedList α) := do
  let (slot, arena) ← list.arena.insert { value, previous := list.tail, next := none }
  let list ← { list with arena }.setNext list.tail (some slot)
  return (slot, { list with tail := some slot, length := list.length + 1 })

/-- Join the neighbours of a node to each other. The node keeps its slot. -/
def unlink (list : LinkedList α) (slot : Nat) : Checked (LinkedList α) := do
  let node ← list.arena.read slot
  let list ← list.setNext node.previous node.next
  list.setPrevious node.next node.previous

/-- Take the node at a slot off the list. -/
def release (list : LinkedList α) (slot : Nat) : Checked (α × LinkedList α) := do
  let list ← list.unlink slot
  let length ← Checked.subtract list.length 1
  let (node, arena) ← list.arena.release slot
  return (node.value, { list with arena, length })

/-- Take the first value off the list. -/
def popFront (list : LinkedList α) : Checked (Option (α × LinkedList α)) :=
  match list.head with
  | none => .ok none
  | some slot => do return some (← list.release slot)

/-- Move the node at a slot to the back. -/
def moveToBack (list : LinkedList α) (slot : Nat) : Checked (LinkedList α) :=
  if list.tail = some slot then .ok list
  else do
    let list ← list.unlink slot
    let arena ← list.arena.modify slot ({ · with previous := list.tail, next := none })
    let list ← { list with arena }.setNext list.tail (some slot)
    return { list with tail := some slot }

/-- The slots and nodes met when links are followed from a start, for at most `limit` nodes. -/
def chain (arena : Arena (Node α)) (link : Node α → Option Nat) :
    (limit : Nat) → (start : Option Nat) → Checked (List (Nat × Node α))
  | _, none => .ok []
  | 0, some _ => .error .endless
  | limit + 1, some slot => do
    let node ← arena.read slot
    let rest ← chain arena link limit (link node)
    return (slot, node) :: rest

/-- Slots and values from head to tail. A chain of more nodes than there are slots would meet some
slot twice, and so never end. -/
def forward (list : LinkedList α) : Checked (List (Nat × α)) := do
  let met ← chain list.arena Node.next list.arena.size list.head
  return met.map fun place => (place.1, place.2.value)

/-- Slots and values from tail to head. -/
def backward (list : LinkedList α) : Checked (List (Nat × α)) := do
  let met ← chain list.arena Node.previous list.arena.size list.tail
  return met.map fun place => (place.1, place.2.value)

/-- The values from head to tail. -/
def toList (list : LinkedList α) : Checked (List α) := do
  return (← list.forward).map Prod.snd

end LinkedList

end PeerCache.Eviction
