import PeerCache.Eviction.Tracker
import PeerCache.Storage.Plan
import Std.Data.ExtTreeMap

/-! # Byte-budgeted storage

A storage maps keys to byte strings and keeps the total weight of its entries within a budget. Its
index owns the values, its tracker knows the order in which keys leave, and every index entry holds
the tracker's slot of its own key. After an insertion or an overwrite, entries leave until the
budget is met. Room for a new entry is made among the old ones first, so that it is its own victim
only if it exceeds the budget alone.
-/

namespace PeerCache

open Eviction (Policy Tracker)

/-- The logical size of an entry: the bytes of its key and of its value. -/
def weight (key : String) (value : Bytes) : Nat := key.utf8ByteSize + value.length

/-- A stored value, and the slot under which its key is tracked. -/
structure Entry where
  value : Bytes
  slot : Nat
deriving DecidableEq, Repr

/-- An entry that left a storage for lack of room. -/
structure Departure where
  key : String
  value : Bytes
deriving DecidableEq, Repr

/-- A storage with its budget, its entries, their order of eviction and their total weight. -/
structure Storage where
  plan : Storage.Plan
  index : Std.ExtTreeMap String Entry
  tracker : Tracker
  usage : Nat

namespace Storage

/-- The empty storage of a plan. -/
def Plan.build (plan : Plan) : Storage :=
  { plan, index := ∅, tracker := .empty plan.policy, usage := 0 }

/-- The byte budget, zero for none. -/
def capacity (storage : Storage) : Nat := storage.plan.capacity

/-- The number of entries. -/
def size (storage : Storage) : Nat := storage.index.size

/-- Whether there is no entry. -/
def isEmpty (storage : Storage) : Bool := storage.index.isEmpty

/-- Whether the entries weigh more than the budget allows. -/
def overBudget (storage : Storage) : Bool :=
  0 < storage.capacity && storage.capacity < storage.usage

/-- The value of a key, without counting as a touch. -/
def peek (storage : Storage) (key : String) : Option Bytes :=
  storage.index[key]?.map Entry.value

/-- The value of a key. A hit counts as a touch. -/
def get (storage : Storage) (key : String) : Checked (Option Bytes × Storage) :=
  match storage.index[key]? with
  | none => .ok (none, storage)
  | some entry => do
    return (some entry.value, { storage with tracker := ← storage.tracker.touch entry.slot })

/-- An index that holds a key loses an entry with it. -/
theorem size_erase_lt {index : Std.ExtTreeMap String Entry} {key : String} {entry : Entry}
    (found : index[key]? = some entry) : (index.erase key).size < index.size := by
  have present : key ∈ index := by
    rw [Std.ExtTreeMap.mem_iff_isSome_getElem?, found]
    rfl
  have occupied : index.size ≠ 0 := fun none =>
    Std.ExtTreeMap.ne_empty_of_mem present (Std.ExtTreeMap.eq_empty_iff_size_eq_zero.mpr none)
  rw [Std.ExtTreeMap.size_erase, if_pos (Std.ExtTreeMap.mem_iff_contains.mp present)]
  omega

/-- Let entries leave until the budget is met or nothing is tracked. Answers who left, in order. -/
def evict (storage : Storage) : Checked (List Departure × Storage) :=
  if storage.overBudget then do
    match ← storage.tracker.pop with
    | none => return ([], storage)
    | some (key, tracker) =>
      match _found : storage.index[key]? with
      | none => throw (.unindexed key)
      | some entry =>
        let usage ← Checked.subtract storage.usage (weight key entry.value)
        let (later, rest) ←
          evict { storage with index := storage.index.erase key, tracker, usage }
        return (⟨key, entry.value⟩ :: later, rest)
  else .ok ([], storage)
termination_by storage.index.size
decreasing_by exact size_erase_lt _found

/-- Replace the value of a stored key, and let entries leave. -/
def overwrite (storage : Storage) (key : String) (entry : Entry) (value : Bytes) :
    Checked (List Departure × Storage) := do
  let rest ← Checked.subtract storage.usage entry.value.length
  let tracker ← storage.tracker.touch entry.slot
  { storage with
    index := storage.index.insert key { entry with value }
    tracker
    usage := rest + value.length }.evict

/-- Store a key that was absent. Older entries leave first, then the new one if it fits not even
alone. -/
def insertNew (storage : Storage) (key : String) (value : Bytes) :
    Checked (List Departure × Storage) := do
  let (older, storage) ← { storage with usage := storage.usage + weight key value }.evict
  let (slot, tracker) ← storage.tracker.push key
  let (itself, storage) ←
    { storage with index := storage.index.insert key ⟨value, slot⟩, tracker }.evict
  return (older ++ itself, storage)

/-- Insert or overwrite a key. Answers the entries that left, in order. -/
def add (storage : Storage) (key : String) (value : Bytes) : Checked (List Departure × Storage) :=
  match storage.index[key]? with
  | some entry => storage.overwrite key entry value
  | none => storage.insertNew key value

/-- The stored keys, the next victim first. -/
def order (storage : Storage) : Checked (List String) := storage.tracker.order

/-- What is reported of departures: all of them to a listener, otherwise nothing. -/
def Plan.reported (plan : Plan) (departures : List Departure) : List Departure :=
  if plan.listens then departures else []

/-- The diagnostic text of a storage. -/
def describe (storage : Storage) : String :=
  Describe.fields ("Storage::" ++ storage.tracker.policy.describe)
    [("len", toString storage.size), ("usage", toString storage.usage),
      ("capacity", toString storage.capacity)]

end Storage

end PeerCache
