import PeerCache.Ring
import PeerCache.Text.Record

/-! # Peer pools

A pool knows the peers of a node and picks the one that a key belongs to. All pools of a cluster
that are set to the same list of peers build the same ring. If the peers are listed in another
order, positions that more than one of them claims may go to another owner. A picked peer is named
by the base of its routes, which is its address followed by the base path.
-/

namespace PeerCache

/-- What is decided about a pool before it exists. -/
structure Pool.Options where
  /-- What all routes start with. It should start and end with a slash. -/
  basePath : String := "/_hint/"
  /-- The number of positions of a peer on the ring. -/
  replicas : Nat := 50
deriving DecidableEq, Repr

/-- The peers of a node. -/
structure Pool where
  /-- The address of the node itself. -/
  this : String
  options : Pool.Options
  ring : Ring
  /-- The base of the routes of every known peer. -/
  getters : Std.ExtTreeMap String String

namespace Pool

/-- A pool that knows no peers. -/
def create (this : String) (options : Options) : Pool :=
  { this, options, ring := .empty xxHash32 options.replicas, getters := ∅ }

/-- The base of a peer's routes. -/
def routesOf (pool : Pool) (peer : String) : String := peer ++ pool.options.basePath

/-- Replace the known peers. The list should contain the node itself. -/
def set (pool : Pool) (peers : List String) : Pool :=
  { pool with
    ring := (Ring.empty xxHash32 pool.options.replicas).add peers
    getters := peers.foldl (fun getters peer => getters.insert peer (pool.routesOf peer)) ∅ }

/-- The known peers, sorted by their UTF-8 bytes. -/
def peers (pool : Pool) : List String := pool.getters.keys

/-- The base of the routes of the peer that a key belongs to, if that is another node. -/
def pick (pool : Pool) (key : String) : Option String := do
  let peer ← pool.ring.owner? key
  if peer = pool.this then none else pool.getters[peer]?

/-- The diagnostic text of a pool. -/
def describe (pool : Pool) : String :=
  let options := Describe.fields "HttpPoolOptions"
    [("base_path", Describe.quoted pool.options.basePath),
      ("replicas", toString pool.options.replicas)]
  Describe.fields "HttpPool"
    [("this", Describe.quoted pool.this), ("options", options),
      ("peers", Describe.list (pool.peers.map Describe.quoted))]

end Pool

end PeerCache
