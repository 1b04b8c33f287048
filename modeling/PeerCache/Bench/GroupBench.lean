import PeerCache.Bench.Gates
import PeerCache.Bench.Source

/-! # A bench for groups

A group together with a scripted loader and, once registered, a scripted peer picker. The bench
brings the answers that the group's computations ask for, as soon as the gates let them through, and
keeps a log of loads, fetches and evictions.
-/

namespace PeerCache.Bench

open Eviction (Policy)

/-- What happens around a group. -/
inductive Note where
  /-- The loader is called. -/
  | load (key : String)
  /-- A peer is asked. -/
  | fetch (peer group key : String)
  /-- The eviction listener hears of an entry. -/
  | evict (departure : Departure)
deriving DecidableEq, Repr

/-- A group as it is written down for a rehearsal. -/
structure Description where
  name : String
  capacity : Option Nat
  /-- The policy as it was typed. -/
  policy : Option String
  listens : Bool
  source : Option Source

/-- Why a description is not that of a group. -/
inductive BuildError where
  | policy (unknown : Policy.UnknownName)
  | group (error : Error)

/-- The draft of a description. Its policy has to be known. -/
def Description.draft (description : Description) :
    Except Policy.UnknownName (Group.Draft Source) := do
  let policy ← match description.policy with
    | some text => Policy.parse text
    | none => pure .standard
  return {
    name := description.name
    plan := { capacity := description.capacity.getD 0, policy, listens := description.listens }
    loader := description.source }

/-- A group with its scripted surroundings. -/
structure GroupBench where
  group : Group
  source : Source
  picker : Option Picker
  gates : Gates
  /-- The number of loads so far. -/
  loads : Nat
  /-- The numbers of the loads that calls wait for. -/
  numbers : Std.ExtTreeMap Nat Nat
  /-- The owners that calls wait for. -/
  remotes : Std.ExtTreeMap Nat Remote
  log : List Note

/-- The bench of a described group. -/
def Description.build (description : Description) : Except BuildError GroupBench := do
  let draft ← description.draft.mapError .policy
  let (group, source) ← draft.build.mapError .group
  return { group, source, picker := none, gates := .closed, loads := 0, numbers := ∅, remotes := ∅
           log := [] }

/-- What a caller gets to know about a get. -/
inductive GetAnswer where
  | absent
  | pending
  | finished (result : GetResult)
deriving DecidableEq, Repr

namespace GroupBench

/-- Write into the log. -/
def note (bench : GroupBench) (notes : List Note) : GroupBench :=
  { bench with log := bench.log ++ notes }

/-- Empty the log. Answers what was in it. -/
def takeLog (bench : GroupBench) : List Note × GroupBench := (bench.log, { bench with log := [] })

/-- Go through a gate if there is one. -/
def pass? (bench : GroupBench) (gated : Bool) (gate : String) : Option GroupBench :=
  if gated then (bench.gates.pass? gate).map fun gates => { bench with gates } else some bench

/-- Let a load go on that has started. -/
def continueLoad (bench : GroupBench) (call : Nat) (key : String) :
    Checked (GetAnswer × GroupBench) :=
  match bench.numbers[call]?, bench.pass? bench.source.isGated ("load:" ++ key) with
  | none, _ => .error (.unasked call)
  | some _, none => .ok (.pending, bench)
  | some number, some bench => do
    let (departures, group, progress) ← bench.group.loaded call (bench.source.answer number key)
    let heard := (group.plan.reported departures).map Note.evict
    let bench := { bench with group, numbers := bench.numbers.erase call }.note heard
    match progress with
    | .finished result => return (.finished result, bench)
    | _ => throw (.unasked call)

/-- Start a load: it is logged and counted at once. -/
def startLoad (bench : GroupBench) (call : Nat) (key : String) :
    Checked (GetAnswer × GroupBench) :=
  let number := bench.loads + 1
  let noted := bench.note (if bench.source.isLogged then [.load key] else [])
  { noted with loads := number, numbers := bench.numbers.insert call number }.continueLoad call key

/-- Let a fetch go on that has started. If it fails, the computation turns to the loader. -/
def continueFetch (bench : GroupBench) (call : Nat) (key : String) :
    Checked (GetAnswer × GroupBench) :=
  match bench.remotes[call]? with
  | none => .error (.unasked call)
  | some remote =>
    match bench.pass? remote.gated ("fetch:" ++ key) with
    | none => .ok (.pending, bench)
    | some bench => do
      let (group, progress) ← bench.group.fetched call remote.result
      let bench := { bench with group, remotes := bench.remotes.erase call }
      match progress with
      | .finished result => return (.finished result, bench)
      | .asks (.load key) => bench.startLoad call key
      | _ => throw (.unasked call)

/-- Start a fetch: it is logged at once. -/
def startFetch (bench : GroupBench) (call : Nat) (peer group key : String)
    (remote : Option Remote) : Checked (GetAnswer × GroupBench) :=
  match remote with
  | none => .error (.unasked call)
  | some remote =>
    let noted := bench.note [.fetch peer group key]
    { noted with remotes := bench.remotes.insert call remote }.continueFetch call key

/-- The key of a live call. -/
def key? (bench : GroupBench) (call : Nat) : Option String :=
  bench.group.arrivals[call]? <|> bench.group.flight.key? call

/-- Poll a call, and bring whatever the gates let through. -/
def poll (bench : GroupBench) (call : Nat) : Checked (GetAnswer × GroupBench) := do
  let remote := bench.picker.bind fun picker => (bench.key? call).bind picker.pick
  let (group, progress) ← bench.group.poll call (remote.map Remote.peer)
  let bench := { bench with group }
  match progress with
  | .absent => return (.absent, bench)
  | .waits => return (.pending, bench)
  | .finished result => return (.finished result, bench)
  | .asks (.fetch peer name key) => bench.startFetch call peer name key remote
  | .asks (.load key) => bench.startLoad call key
  | .remains (.fetch _ _ key) => bench.continueFetch call key
  | .remains (.load key) => bench.continueLoad call key

/-- Poll every live call once, in increasing order. -/
def pollAll (bench : GroupBench) : Checked (List (Nat × GetAnswer) × GroupBench) :=
  bench.group.liveCalls.foldlM
    (fun (answers, bench) call => do
      let (answer, bench) ← bench.poll call
      return (answers ++ [(call, answer)], bench))
    ([], bench)

/-- Create a call. -/
def call (bench : GroupBench) (call : Nat) (key : String) : GroupBench :=
  { bench with group := bench.group.call call key }

/-- Cancel a call. Answers whether there was one. -/
def drop (bench : GroupBench) (call : Nat) : Bool × GroupBench :=
  (bench.group.isLive call,
    { bench with
      group := bench.group.drop call
      numbers := bench.numbers.erase call
      remotes := bench.remotes.erase call })

/-- A number that no live call has. -/
def spareCall (bench : GroupBench) : Nat := bench.group.liveCalls.foldl max 0 + 1

/-- Get a key with a single poll. A get that is still pending after it is cancelled. -/
def get (bench : GroupBench) (key : String) : Checked (GetAnswer × GroupBench) := do
  let spare := bench.spareCall
  let (answer, bench) ← (bench.call spare key).poll spare
  return (answer, (bench.drop spare).2)

/-- Add a permit to a gate. -/
def allow (bench : GroupBench) (gate : String) : GroupBench :=
  { bench with gates := bench.gates.allow gate }

/-- Register a peer picker. -/
def register (bench : GroupBench) (picker : Picker) : Except Error GroupBench := do
  return { bench with group := ← bench.group.registerPeers, picker := some picker }

end GroupBench

end PeerCache.Bench
