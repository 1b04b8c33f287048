import PeerCache.Error
import PeerCache.Flight.Basic
import PeerCache.Group.Stats
import PeerCache.Storage.Basic

/-! # Groups

A group is a named cache in front of a loader. A get looks into the storage, and on a miss enters
the flight of its key, where one computation looks again, asks the peer that owns the key, and falls
back to the loader. Only what the group's own loader gives is stored.

A group does not call its peers or its loader. A poll that comes to the point where one is needed
says so and leaves the computation outstanding, and whoever runs the group brings the answer when
there is one. Between the two, other calls may come and go, which makes every interleaving of a
concurrent run a sequence of operations of this module.
-/

namespace PeerCache

/-- What a get comes to. -/
abbrev GetResult := Except Error Bytes

namespace Group

/-- What a computation needs from outside the group. -/
inductive Request where
  /-- The value of a key of a group from a peer. -/
  | fetch (peer group key : String)
  /-- The value of a key from the loader. -/
  | load (key : String)
deriving DecidableEq, Repr

/-- How far a get has come after it was polled or answered. -/
inductive Progress where
  /-- There is no such call. -/
  | absent
  /-- The call is over. -/
  | finished (result : GetResult)
  /-- The call waits for another call on its key. -/
  | waits
  /-- The computation of this call starts to need something. -/
  | asks (request : Request)
  /-- The computation of this call still needs something. -/
  | remains (request : Request)
deriving DecidableEq, Repr

/-- What is decided about a group before it exists. -/
structure Draft (Loader : Type) where
  name : String
  plan : Storage.Plan := {}
  loader : Option Loader := none

end Group

/-- A named cache with its storage, its calls and its counters. -/
structure Group where
  name : String
  plan : Storage.Plan
  /-- Built when the first value is stored. -/
  storage : Option Storage
  /-- Whether a peer picker is registered. -/
  hasPeers : Bool
  /-- The keys of calls that were never polled. -/
  arrivals : Std.ExtTreeMap Nat String
  /-- The calls that missed. -/
  flight : Flight GetResult
  /-- What the computations of leading calls are waiting for. -/
  errands : Std.ExtTreeMap Nat Group.Request
  stats : Group.Stats

namespace Group

/-- A group as it is before its first call. -/
def create (name : String) (plan : Storage.Plan) : Group :=
  { name, plan, storage := none, hasPeers := false, arrivals := ∅, flight := .empty, errands := ∅
    stats := {} }

/-- The group of a draft together with its loader, without which there is no group. -/
def Draft.build {Loader : Type} (draft : Draft Loader) : Except Error (Group × Loader) :=
  match draft.loader with
  | none => .error (.missingLoader draft.name)
  | some loader => .ok (create draft.name draft.plan, loader)

/-- The number of stored entries. -/
def size (group : Group) : Nat := (group.storage.map Storage.size).getD 0

/-- Whether nothing is stored. -/
def isEmpty (group : Group) : Bool := group.size == 0

/-- The total weight of the stored entries. -/
def usage (group : Group) : Nat := (group.storage.map Storage.usage).getD 0

/-- The value stored for a key, without counting as a touch. -/
def peek (group : Group) (key : String) : Option Bytes :=
  group.storage.bind fun storage => storage.peek key

/-- The value stored for a key. A hit counts as a touch. -/
def lookup (group : Group) (key : String) : Checked (Option Bytes × Group) :=
  match group.storage with
  | none => .ok (none, group)
  | some storage => do
    let (value, storage) ← storage.get key
    return (value, { group with storage := some storage })

/-- Store a loaded value, in a new storage if there was none. Answers the entries that left. -/
def populate (group : Group) (key : String) (value : Bytes) :
    Checked (List Departure × Group) := do
  let (departures, storage) ← (group.storage.getD group.plan.build).add key value
  return (departures, { group with storage := some storage })

/-- Register the peer picker, which can be done only once. -/
def registerPeers (group : Group) : Except Error Group :=
  if group.hasPeers then .error (.peersAlreadyRegistered group.name)
  else .ok { group with hasPeers := true }

/-- Count a request received from a peer. -/
def recordRequest (group : Group) : Group :=
  { group with stats.serverRequests := group.stats.serverRequests + 1 }

/-! ## Gets -/

/-- The numbers of all live calls, in increasing order. -/
def liveCalls (group : Group) : List Nat :=
  (group.arrivals.keys ++ group.flight.calls.keys).mergeSort fun first second => first ≤ second

/-- Whether there is a call of this number. -/
def isLive (group : Group) (call : Nat) : Bool :=
  group.arrivals.contains call || group.flight.calls.contains call

/-- Create a get without polling it. A number in use keeps its call. -/
def call (group : Group) (call : Nat) (key : String) : Group :=
  if group.isLive call then group
  else { group with arrivals := group.arrivals.insert call key }

/-- Let the computation of a call return. -/
def conclude (group : Group) (call : Nat) (result : GetResult) : Group × Progress :=
  ({ group with
      flight := group.flight.conclude call result
      errands := group.errands.erase call }, .finished result)

/-- Let the computation of a call ask for something. -/
def ask (group : Group) (call : Nat) (request : Request) : Group × Progress :=
  ({ group with errands := group.errands.insert call request }, .asks request)

/-- The first part of a computation: look again, then turn to the owner of the key or to the loader.
The second look is no touch, for the first one was. -/
def compute (group : Group) (call : Nat) (key : String) (owner : Option String) :
    Group × Progress :=
  match group.peek key with
  | some value =>
    { group with stats.cacheHits := group.stats.cacheHits + 1 }.conclude call (.ok value)
  | none =>
    let group := { group with stats.loadsDeduped := group.stats.loadsDeduped + 1 }
    match if group.hasPeers then owner else none with
    | some peer => group.ask call (.fetch peer group.name key)
    | none => group.ask call (.load key)

/-- Poll a call that is in the flight. -/
def pollFlight (group : Group) (call : Nat) (owner : Option String) : Checked (Group × Progress) :=
  let (flight, attendance) := group.flight.attend call
  let group := { group with flight }
  match attendance with
  | .absent => .ok (group, .absent)
  | .waiting => .ok (group, .waits)
  | .received result => .ok (group, .finished result)
  | .leading =>
    match group.errands[call]? with
    | some request => .ok (group, .remains request)
    | none => .error (.unasked call)
  | .started =>
    match flight.key? call with
    | some key => .ok (group.compute call key owner)
    | none => .error (.unknown call)

/-- Poll a get for the first time: reject the empty key, look into the storage, and on a miss enter
the flight. -/
def begin (group : Group) (call : Nat) (key : String) (owner : Option String) :
    Checked (Group × Progress) := do
  let group := { group with
    arrivals := group.arrivals.erase call
    stats.gets := group.stats.gets + 1 }
  if key = "" then return (group, .finished (.error .invalidKey))
  match ← group.lookup key with
  | (some value, group) =>
    return ({ group with stats.cacheHits := group.stats.cacheHits + 1 }, .finished (.ok value))
  | (none, group) =>
    let group := { group with
      stats.loads := group.stats.loads + 1
      flight := group.flight.enter call key }
    group.pollFlight call owner

/-- Poll a get as far as it goes without an answer from outside. The owner is what the peer picker,
if one is registered, says about the key of the call at this moment. -/
def poll (group : Group) (call : Nat) (owner : Option String) : Checked (Group × Progress) :=
  match group.arrivals[call]? with
  | some key => group.begin call key owner
  | none => group.pollFlight call owner

/-- Answer the fetch of a computation. A fetched value is returned and not stored. A failed fetch is
counted and otherwise forgotten, and the loader is turned to. -/
def fetched (group : Group) (call : Nat) (result : GetResult) : Checked (Group × Progress) :=
  match group.errands[call]? with
  | some (.fetch _ _ key) =>
    match result with
    | .ok value =>
      .ok <| { group with stats.peerLoads := group.stats.peerLoads + 1 }.conclude call (.ok value)
    | .error _ =>
      .ok <| { group with stats.peerErrors := group.stats.peerErrors + 1 }.ask call (.load key)
  | _ => .error (.unasked call)

/-- Answer the loader call of a computation. A loaded value is stored and returned, and the entries
that leave for it are answered. An error is returned and nothing is stored. -/
def loaded (group : Group) (call : Nat) (result : Except String Bytes) :
    Checked (List Departure × Group × Progress) :=
  match group.errands[call]? with
  | some (.load key) =>
    match result with
    | .ok value => do
      let (departures, group) ←
        { group with stats.localLoads := group.stats.localLoads + 1 }.populate key value
      return (departures, group.conclude call (.ok value))
    | .error text =>
      .ok ([], { group with stats.localLoadErrors := group.stats.localLoadErrors + 1 }.conclude
        call (.error (.loader text)))
  | _ => .error (.unasked call)

/-- Cancel a get, and with it whatever its computation was waiting for. -/
def drop (group : Group) (call : Nat) : Group :=
  { group with
    arrivals := group.arrivals.erase call
    flight := group.flight.drop call
    errands := group.errands.erase call }

/-! ## Descriptions -/

/-- The diagnostic text of a group. -/
def describe (group : Group) : String :=
  Describe.fields "Group"
    [("name", Describe.quoted group.name), ("storage", group.plan.describe),
      ("peers", Describe.bool group.hasPeers)]

/-- The diagnostic text of a draft. -/
def Draft.describe {Loader : Type} (draft : Draft Loader) : String :=
  Describe.fields "GroupBuilder"
    [("name", Describe.quoted draft.name), ("storage", draft.plan.describe),
      ("loader", Describe.bool draft.loader.isSome)]

end Group

end PeerCache
