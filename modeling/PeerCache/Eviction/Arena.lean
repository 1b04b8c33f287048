import PeerCache.Fault

/-! # Slot arenas

Elements that refer to each other live in numbered slots. A slot keeps its number while others come
and go, a released slot is vacant until a later insertion reuses it, and the slot released last is
reused first. `get?` is the view of an arena through which its operations are described.
-/

namespace PeerCache.Eviction

/-- Numbered slots, and the vacant ones among them in the order of reuse. -/
structure Arena (α : Type) where
  slots : Array (Option α) := #[]
  free : List Nat := []
deriving Repr

namespace Arena

variable {α : Type}

/-- The element in a slot, if the slot exists and is occupied. -/
def get? (arena : Arena α) (slot : Nat) : Option α := (arena.slots[slot]?).join

/-- The number of slots, occupied or vacant. -/
def size (arena : Arena α) : Nat := arena.slots.size

/-- The element in a slot that must be occupied. -/
def read (arena : Arena α) (slot : Nat) : Checked α :=
  match arena.slots[slot]? with
  | none => .error (.outOfRange slot)
  | some none => .error (.vacant slot)
  | some (some element) => .ok element

/-- Change the element of a slot that must be occupied. -/
def modify (arena : Arena α) (slot : Nat) (change : α → α) : Checked (Arena α) := do
  let element ← arena.read slot
  return { arena with slots := arena.slots.setIfInBounds slot (some (change element)) }

/-- Place an element into the slot released last, or into a new slot when none is vacant. -/
def insert (arena : Arena α) (element : α) : Checked (Nat × Arena α) :=
  match arena.free with
  | [] => .ok (arena.size, { arena with slots := arena.slots.push (some element) })
  | slot :: free =>
    match arena.slots[slot]? with
    | none => .error (.outOfRange slot)
    | some (some _) => .error (.occupied slot)
    | some none => .ok (slot, ⟨arena.slots.setIfInBounds slot (some element), free⟩)

/-- Take the element out of a slot that must be occupied. -/
def release (arena : Arena α) (slot : Nat) : Checked (α × Arena α) := do
  let element ← arena.read slot
  return (element, ⟨arena.slots.setIfInBounds slot none, slot :: arena.free⟩)

theorem read_eq_ok_iff {arena : Arena α} {slot : Nat} {element : α} :
    arena.read slot = .ok element ↔ arena.get? slot = some element := by
  unfold read get?
  split <;> rename_i found <;> simp [found]

end Arena

end PeerCache.Eviction
