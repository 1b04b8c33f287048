import Std.Data.ExtTreeMap

/-! # Gates

A gate holds back whoever comes to it until it has a permit, and every permit lets one through.
Gates stand for anything that takes time, so that a rehearsal decides itself when a computation goes
on.
-/

namespace PeerCache.Bench

/-- The number of permits at every gate, by the gate's name. Unknown gates have none. -/
structure Gates where
  permits : Std.ExtTreeMap String Nat

namespace Gates

/-- All gates without permits. -/
def closed : Gates := ⟨∅⟩

/-- The number of permits at a gate. -/
def count (gates : Gates) (gate : String) : Nat := gates.permits[gate]?.getD 0

/-- Add a permit to a gate. -/
def allow (gates : Gates) (gate : String) : Gates :=
  ⟨gates.permits.insert gate (gates.count gate + 1)⟩

/-- Take a permit and go through, if there is one. -/
def pass? (gates : Gates) (gate : String) : Option Gates :=
  match gates.count gate with
  | 0 => none
  | left + 1 => some ⟨gates.permits.insert gate left⟩

end Gates

end PeerCache.Bench
