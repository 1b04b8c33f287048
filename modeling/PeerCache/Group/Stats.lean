import PeerCache.Text.Record

/-! # Counters of a group -/

namespace PeerCache.Group

/-- What a group has done so far. -/
structure Stats where
  /-- Gets, rejected ones included. -/
  gets : Nat := 0
  /-- Gets served by the local storage, at the first look or at the second one of a computation. -/
  cacheHits : Nat := 0
  /-- Values fetched from a peer. -/
  peerLoads : Nat := 0
  /-- Fetches that failed. -/
  peerErrors : Nat := 0
  /-- Gets that missed and entered the flight. -/
  loads : Nat := 0
  /-- Computations that went past the second look. -/
  loadsDeduped : Nat := 0
  /-- Loader calls that gave a value. -/
  localLoads : Nat := 0
  /-- Loader calls that failed. -/
  localLoadErrors : Nat := 0
  /-- Requests received from peers. -/
  serverRequests : Nat := 0
deriving DecidableEq, Repr

namespace Stats

/-- The counters with their names, in their customary order. -/
def named (stats : Stats) : List (String × Nat) :=
  [("gets", stats.gets), ("cache_hits", stats.cacheHits), ("peer_loads", stats.peerLoads),
    ("peer_errors", stats.peerErrors), ("loads", stats.loads),
    ("loads_deduped", stats.loadsDeduped), ("local_loads", stats.localLoads),
    ("local_load_errs", stats.localLoadErrors), ("server_requests", stats.serverRequests)]

/-- The counters in their customary order. -/
def toList (stats : Stats) : List Nat := stats.named.map Prod.snd

/-- The diagnostic text of the counters, under a title. -/
def describe (title : String) (stats : Stats) : String :=
  Describe.fields title (stats.named.map fun counter => (counter.1, toString counter.2))

/-- The diagnostic texts of the counters as a copy and as they are kept. -/
def descriptions (stats : Stats) : List String :=
  [stats.describe "StatsSnapshot", stats.describe "GroupStats"]

end Stats

end PeerCache.Group
