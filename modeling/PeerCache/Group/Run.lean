import PeerCache.Group.Basic

/-! # Runs of a group

A group seen from outside: gets are created, polled and cancelled, and what their computations asked
for arrives, in any order. Who owns a key when it is polled, what a peer sends and what the loader
gives is up to the surroundings, so an action says so. An answer for which no computation waits is
lost, as is that to a get which was cancelled.
-/

namespace PeerCache.Group

/-- What happens to a group. -/
inductive Action where
  /-- Create a get of a key. -/
  | call (call : Nat) (key : String)
  /-- Poll a get, for whose key the peer picker names this owner. -/
  | poll (call : Nat) (owner : Option String)
  /-- A peer answers the fetch of a computation. -/
  | fetched (call : Nat) (result : GetResult)
  /-- The loader answers a computation. -/
  | loaded (call : Nat) (result : Except String Bytes)
  /-- Cancel a get. -/
  | drop (call : Nat)
  /-- Register the peer picker. -/
  | registerPeers
deriving Repr

/-- The group after an action, how far the get has come, and the entries that left the storage. -/
structure Outcome where
  group : Group
  progress : Option Progress
  departures : List Departure

/-- Perform one action. -/
def step (group : Group) : Action → Checked Outcome
  | .call call key => .ok ⟨group.call call key, none, []⟩
  | .poll call owner => do
    let (group, progress) ← group.poll call owner
    return ⟨group, some progress, []⟩
  | .fetched call result =>
    match group.errands[call]? with
    | some (.fetch _ _ _) => do
      let (group, progress) ← group.fetched call result
      return ⟨group, some progress, []⟩
    | _ => .ok ⟨group, none, []⟩
  | .loaded call result =>
    match group.errands[call]? with
    | some (.load _) => do
      let (departures, group, progress) ← group.loaded call result
      return ⟨group, some progress, departures⟩
    | _ => .ok ⟨group, none, []⟩
  | .drop call => .ok ⟨group.drop call, none, []⟩
  | .registerPeers =>
    match group.registerPeers with
    | .ok group => .ok ⟨group, none, []⟩
    | .error _ => .ok ⟨group, none, []⟩

/-- Perform actions in order. Answers the group at the end and what each action led to. -/
def run (group : Group) : List Action → Checked (Group × List Outcome)
  | [] => .ok (group, [])
  | action :: rest => do
    let outcome ← group.step action
    let (final, later) ← outcome.group.run rest
    return (final, outcome :: later)

end PeerCache.Group
