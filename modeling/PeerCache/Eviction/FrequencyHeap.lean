import PeerCache.Eviction.Arena

/-! # Heaps by frequency

A binary heap of keys in which the least frequently touched key is at the top, and among equally
frequent ones the key that has gone untouched longest. Entries live in an arena and remember their
position in the heap, so that the rank of an entry can be raised by its slot without a search. The
logical clock ticks at every insertion and every touch, which makes all ranks distinct.
-/

namespace PeerCache.Eviction

/-- A key with its rank and its place in the heap. -/
structure Ranked where
  key : String
  frequency : Nat
  touched : Nat
  position : Nat
deriving DecidableEq, Repr

namespace Ranked

/-- Whether one entry leaves before another: by frequency, then by the time of the last touch. -/
def before (first second : Ranked) : Bool :=
  first.frequency < second.frequency
    || (first.frequency == second.frequency && first.touched < second.touched)

/-- Whether one entry does not leave after another. -/
def notAfter (first second : Ranked) : Bool := !second.before first

end Ranked

/-- Slots laid out as a binary heap, the entries they refer to, and the clock. -/
structure FrequencyHeap where
  heap : Array Nat := #[]
  arena : Arena Ranked := {}
  clock : Nat := 0
deriving Repr

namespace FrequencyHeap

/-- The heap without entries. -/
def empty : FrequencyHeap := {}

/-- The number of entries. -/
def size (heap : FrequencyHeap) : Nat := heap.heap.size

/-- The slot at a position that must be in the heap. -/
def slotAt (heap : FrequencyHeap) (position : Nat) : Checked Nat :=
  match heap.heap[position]? with
  | some slot => .ok slot
  | none => .error (.misplaced position)

/-- The entry at a position that must be in the heap. -/
def entryAt (heap : FrequencyHeap) (position : Nat) : Checked Ranked := do
  heap.arena.read (← heap.slotAt position)

/-- Whether the entry at one position leaves before the entry at another. -/
def leavesBefore (heap : FrequencyHeap) (first second : Nat) : Checked Bool := do
  return (← heap.entryAt first).before (← heap.entryAt second)

/-- Exchange the entries at two positions, and let both remember their new place. -/
def swap (heap : FrequencyHeap) (first second : Nat) : Checked FrequencyHeap := do
  let firstSlot ← heap.slotAt first
  let secondSlot ← heap.slotAt second
  let arena ← heap.arena.modify secondSlot ({ · with position := first })
  let arena ← arena.modify firstSlot ({ · with position := second })
  return { heap with
    heap := (heap.heap.setIfInBounds first secondSlot).setIfInBounds second firstSlot, arena }

/-- Move the entry at a position up until its parent leaves before it. Answers whether it moved. -/
def siftUp (heap : FrequencyHeap) (position : Nat) : Checked (Bool × FrequencyHeap) :=
  if 0 < position then do
    let parent := (position - 1) / 2
    if ← heap.leavesBefore position parent then
      let (_, heap) ← (← heap.swap position parent).siftUp parent
      return (true, heap)
    else return (false, heap)
  else .ok (false, heap)
termination_by position
decreasing_by omega

/-- The one of two positions whose entry leaves first. A child beyond `size` does not count. -/
def lesser (heap : FrequencyHeap) (size child best : Nat) : Checked Nat :=
  if child < size then do
    return if ← heap.leavesBefore child best then child else best
  else .ok best

/-- The position, among a parent and its children below `size`, of the entry that leaves first. -/
def leastOfFamily (heap : FrequencyHeap) (size parent : Nat) : Checked Nat := do
  heap.lesser size (2 * parent + 2) (← heap.lesser size (2 * parent + 1) parent)

/-- Move the entry at a position down until both its children leave after it. -/
def siftDown (heap : FrequencyHeap) (size position : Nat) : Checked FrequencyHeap := do
  let least ← heap.leastOfFamily size position
  if _below : position < least ∧ least < size then
    (← heap.swap position least).siftDown size least
  else return heap
termination_by size - position

/-- Restore the heap order around a position whose rank changed. -/
def restore (heap : FrequencyHeap) (position : Nat) : Checked FrequencyHeap := do
  let (moved, heap) ← heap.siftUp position
  if moved then return heap else heap.siftDown heap.size position

/-- Insert a key with frequency one. Answers the slot of its entry. -/
def push (heap : FrequencyHeap) (key : String) : Checked (Nat × FrequencyHeap) := do
  let clock := heap.clock + 1
  let position := heap.size
  let (slot, arena) ← heap.arena.insert { key, frequency := 1, touched := clock, position }
  let (_, heap) ← { heap := heap.heap.push slot, arena, clock : FrequencyHeap }.siftUp position
  return (slot, heap)

/-- Raise the frequency of the entry at a slot by one. -/
def bump (heap : FrequencyHeap) (slot : Nat) : Checked FrequencyHeap := do
  let clock := heap.clock + 1
  let arena ← heap.arena.modify slot fun entry =>
    { entry with frequency := entry.frequency + 1, touched := clock }
  let entry ← arena.read slot
  { heap with arena, clock }.restore entry.position

/-- Take the entry at a slot out of the heap. The last entry fills its place. -/
def release (heap : FrequencyHeap) (slot : Nat) : Checked (String × FrequencyHeap) := do
  let position := (← heap.arena.read slot).position
  let last ← Checked.subtract heap.size 1
  let heap ← heap.swap position last
  let heap := { heap with heap := heap.heap.pop }
  let heap ← if position < heap.size then heap.restore position else pure heap
  let (entry, arena) ← heap.arena.release slot
  return (entry.key, { heap with arena })

/-- Take out the key that leaves first. -/
def pop (heap : FrequencyHeap) : Checked (Option (String × FrequencyHeap)) :=
  match heap.heap[0]? with
  | none => .ok none
  | some slot => do return some (← heap.release slot)

/-- All entries, the one that leaves first in front. -/
def ranking (heap : FrequencyHeap) : Checked (List Ranked) := do
  let entries ← heap.heap.toList.mapM heap.arena.read
  return entries.mergeSort Ranked.notAfter

/-- All keys, the one that leaves first in front. -/
def sorted (heap : FrequencyHeap) : Checked (List String) := do
  return (← heap.ranking).map Ranked.key

end FrequencyHeap

end PeerCache.Eviction
