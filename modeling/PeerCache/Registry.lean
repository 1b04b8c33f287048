import PeerCache.Text.Record
import Std.Data.ExtTreeMap

/-! # Registries

A registry finds groups by name. Registering a group under a name that is taken replaces the group
that had it.
-/

namespace PeerCache

/-- Groups, or whatever stands for them, by name. -/
structure Registry (γ : Type) where
  groups : Std.ExtTreeMap String γ

namespace Registry

variable {γ : Type}

/-- The registry without groups. -/
def empty : Registry γ := ⟨∅⟩

/-- Register a group. Answers the group that had the name. -/
def register (registry : Registry γ) (name : String) (group : γ) : Option γ × Registry γ :=
  (registry.groups[name]?, ⟨registry.groups.insert name group⟩)

/-- The group of a name. -/
def get? (registry : Registry γ) (name : String) : Option γ := registry.groups[name]?

/-- The registered names, sorted by their UTF-8 bytes. -/
def names (registry : Registry γ) : List String := registry.groups.keys

/-- The number of registered groups. -/
def size (registry : Registry γ) : Nat := registry.groups.size

/-- Whether no group is registered. -/
def isEmpty (registry : Registry γ) : Bool := registry.groups.isEmpty

/-- The diagnostic text of a registry. -/
def describe (registry : Registry γ) : String :=
  Describe.fields "Registry" [("groups", Describe.list (registry.names.map Describe.quoted))]

end Registry

end PeerCache
