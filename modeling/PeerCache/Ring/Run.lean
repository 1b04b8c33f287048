import PeerCache.Ring

/-! # Runs of a ring

The peers of a ring come and go: many may be placed on it at once, and each is taken off it alone. A
run is a list of such changes of membership.
-/

namespace PeerCache.Ring

/-- A change of membership. -/
inductive Change where
  /-- Place peers on the ring, in this order. -/
  | add (peers : List String)
  /-- Take a peer off the ring, if it is there. -/
  | remove (peer : String)
deriving DecidableEq, Repr

/-- Perform one change. -/
def step (ring : Ring) : Change → Ring
  | .add peers => ring.add peers
  | .remove peer => ring.remove peer

/-- Perform changes in order. -/
def run (ring : Ring) (changes : List Change) : Ring := changes.foldl step ring

end PeerCache.Ring
