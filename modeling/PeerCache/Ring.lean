import PeerCache.Hash.Checksum
import Std.Data.ExtTreeMap

/-! # The consistent hash ring

Every peer claims a number of positions on a ring of 32-bit words, one for each replica, and a key
belongs to the owner of the first position at or after its own hash, around the end of the ring if
need be. A position that two claims meet on stays with the earlier one. The sorted list of positions
serves the search, the map of owners says whose they are.
-/

namespace PeerCache

/-- The claimed positions in increasing order, and the peer that owns each. -/
structure Ring where
  /-- The checksum that places peers and keys. -/
  hasher : Hasher
  /-- The number of positions that a peer claims. -/
  replicas : Nat
  positions : List UInt32
  owners : Std.ExtTreeMap UInt32 String

namespace Ring

/-- The ring without peers. -/
def empty (hasher : Hasher) (replicas : Nat) : Ring :=
  { hasher, replicas, positions := [], owners := ∅ }

/-- The number of claimed positions. -/
def size (ring : Ring) : Nat := ring.positions.length

/-- Whether no position is claimed. -/
def isEmpty (ring : Ring) : Bool := ring.positions.isEmpty

/-- The position of one replica of a peer: the hash of the replica's number followed by the peer. -/
def position (ring : Ring) (peer : String) (replica : Nat) : UInt32 :=
  ring.hasher (Bytes.ofText (toString replica ++ peer))

/-- The positions of all replicas of a peer, in the order in which they are claimed. -/
def claims (ring : Ring) (peer : String) : List UInt32 :=
  (List.range ring.replicas).map (ring.position peer)

/-- Give a position to a peer, unless it has an owner. -/
def claim (peer : String) (ring : Ring) (position : UInt32) : Ring :=
  if position ∈ ring.owners then ring
  else { ring with
    positions := position :: ring.positions
    owners := ring.owners.insert position peer }

/-- Let a peer claim its positions. The positions are left unsorted. -/
def place (ring : Ring) (peer : String) : Ring :=
  (ring.claims peer).foldl (claim peer) ring

/-- Put the positions into increasing order. -/
def sorted (ring : Ring) : Ring :=
  { ring with positions := ring.positions.mergeSort fun first second => first ≤ second }

/-- Place peers on the ring, one after the other. -/
def add (ring : Ring) (peers : List String) : Ring := (peers.foldl place ring).sorted

/-- The first index between `low` and `high` whose position is not below a hash, or else `high`. The
stretch is halved until nothing is left of it, which takes increasing positions to be right. -/
def bisect (positions : List UInt32) (hash : UInt32) (low high : Nat) : Nat :=
  if low < high then
    let middle := (low + high) / 2
    if positions[middle]?.any (· < hash) then bisect positions hash (middle + 1) high
    else bisect positions hash low middle
  else low
termination_by high - low

/-- The number of positions below a hash, which is the index of the first one that is not. -/
def rank (ring : Ring) (hash : UInt32) : Nat := bisect ring.positions hash 0 ring.size

/-- Take a position back from a peer, if the peer owns it. -/
def vacate (peer : String) (ring : Ring) (position : UInt32) : Ring :=
  if ring.owners[position]? = some peer then
    let index := ring.rank position
    { ring with
      positions :=
        if ring.positions[index]? = some position then ring.positions.eraseIdx index
        else ring.positions
      owners := ring.owners.erase position }
  else ring

/-- Take a peer off the ring. -/
def remove (ring : Ring) (peer : String) : Ring :=
  (ring.claims peer).foldl (vacate peer) ring

/-- The position that serves a hash: the first one not below it, or the first of all. There is none
on an empty ring. -/
def seat? (ring : Ring) (hash : UInt32) : Option UInt32 :=
  if ring.isEmpty then none else ring.positions[ring.rank hash % ring.size]?

/-- The peer that a key belongs to. There is none on an empty ring. -/
def owner? (ring : Ring) (key : String) : Option String := do
  ring.owners[← ring.seat? (ring.hasher (Bytes.ofText key))]?

end Ring

end PeerCache
