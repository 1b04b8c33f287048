import PeerCache.Bench.GroupBench
import PeerCache.Registry

/-! # A bench for registries

Two registries that share a stock of groups. Groups are numbered in the order in which they were
built, and a registry refers to them by number.
-/

namespace PeerCache.Bench

/-- The groups built so far and the two registries, of which `false` is the first. -/
structure RegistryBench where
  groups : Array GroupBench
  first : Registry Nat
  second : Registry Nat

namespace RegistryBench

/-- The bench without groups. -/
def empty : RegistryBench := { groups := #[], first := .empty, second := .empty }

/-- One of the two registries. -/
def registry (bench : RegistryBench) (second : Bool) : Registry Nat :=
  if second then bench.second else bench.first

/-- Put back one of the two registries. -/
def setRegistry (bench : RegistryBench) (second : Bool) (registry : Registry Nat) : RegistryBench :=
  if second then { bench with second := registry } else { bench with first := registry }

/-- Build a group and register it. Answers its number. -/
def build (bench : RegistryBench) (second : Bool) (description : Description) :
    Except BuildError (Nat × RegistryBench) := do
  let built ← description.build
  let number := bench.groups.size
  let (_, registry) := (bench.registry second).register built.group.name number
  return (number, { bench with groups := bench.groups.push built }.setRegistry second registry)

/-- Register a group that exists. Answers the number of the group it replaces. -/
def register (bench : RegistryBench) (second : Bool) (number : Nat) :
    Checked (Option Nat × RegistryBench) :=
  match bench.groups[number]? with
  | none => .error (.unknown number)
  | some built =>
    let (replaced, registry) := (bench.registry second).register built.group.name number
    .ok (replaced, bench.setRegistry second registry)

/-- Get a key from the registered group of a name. Answers also what was logged. -/
def load (bench : RegistryBench) (second : Bool) (name key : String) :
    Checked (GetAnswer × List Note × RegistryBench) := do
  match (bench.registry second).get? name with
  | none => return (.finished (.error (.unknownGroup name)), [], bench)
  | some number =>
    match bench.groups[number]? with
    | none => throw (.unknown number)
    | some built =>
      let (answer, built) ← built.get key
      let (log, built) := built.takeLog
      return (answer, log, { bench with groups := bench.groups.setIfInBounds number built })

end RegistryBench

end PeerCache.Bench
