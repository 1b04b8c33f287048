import PeerCache.Storage.Basic

/-! # Runs of a storage

A storage seen from outside: entries are added, read, and read without leaving a trace. A run is a
list of such actions and leaves a list of answers.
-/

namespace PeerCache.Storage

/-- What a caller does. -/
inductive Action where
  /-- Insert or overwrite a key. -/
  | add (key : String) (value : Bytes)
  /-- Read a key. A hit counts as a touch. -/
  | get (key : String)
  /-- Read a key, without counting as a touch. -/
  | peek (key : String)
deriving DecidableEq, Repr

/-- What an action answers. -/
inductive Answer where
  /-- The entries that left, in order. -/
  | departed (departures : List Departure)
  /-- The value of the key, if it is stored. -/
  | found (value : Option Bytes)
deriving DecidableEq, Repr

/-- Perform one action. -/
def step (storage : Storage) : Action → Checked (Storage × Answer)
  | .add key value => do
    let (departures, storage) ← storage.add key value
    return (storage, .departed departures)
  | .get key => do
    let (value, storage) ← storage.get key
    return (storage, .found value)
  | .peek key => .ok (storage, .found (storage.peek key))

/-- Perform actions in order. Answers the storage at the end and what each action answered. -/
def run (storage : Storage) : List Action → Checked (Storage × List Answer)
  | [] => .ok (storage, [])
  | action :: rest => do
    let (storage, answer) ← storage.step action
    let (final, later) ← storage.run rest
    return (final, answer :: later)

end PeerCache.Storage
