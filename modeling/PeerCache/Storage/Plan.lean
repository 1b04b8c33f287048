import PeerCache.Eviction.Policy
import PeerCache.Text.Record

/-! # Plans of a storage

What has to be decided about a storage before it exists: its byte budget, its eviction policy, and
whether anyone listens for evictions.
-/

namespace PeerCache.Storage

open Eviction (Policy)

/-- The decisions about a storage. -/
structure Plan where
  /-- The byte budget. Zero means that there is none. -/
  capacity : Nat := 0
  policy : Policy := .standard
  /-- Whether evictions are reported. -/
  listens : Bool := false
deriving DecidableEq, Repr

/-- The diagnostic text of a plan. -/
def Plan.describe (plan : Plan) : String :=
  Describe.fields "StorageBuilder"
    [("capacity", toString plan.capacity), ("eviction_config", plan.policy.describe),
      ("listener", Describe.bool plan.listens)]

end PeerCache.Storage
