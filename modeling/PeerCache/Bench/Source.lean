import PeerCache.Demo.Scores
import PeerCache.Group.Basic

/-! # Scripted sources

The loaders and peers of a rehearsal follow a script: what they answer for a key is written down
beforehand, and so is whether they take time, that is, wait at a gate.
-/

namespace PeerCache.Bench

/-- What a source gives for a key that is not in its table. -/
inductive Fallback where
  /-- The key itself. -/
  | echo
  /-- The key and the number of the load. -/
  | count
  /-- A report that the key is missing. -/
  | missing
deriving DecidableEq, Repr

/-- The source of truth of a group. -/
inductive Source where
  /-- The score table of the demo. Its loads take no time and are not logged. -/
  | scores
  /-- A table of values and failures, with a fallback. -/
  | scripted (table : List (String × Except String Bytes)) (fallback : Fallback) (gated : Bool)

namespace Source

/-- Whether loads are logged. -/
def isLogged : Source → Bool
  | .scores => false
  | .scripted .. => true

/-- Whether a load waits at the gate of its key. -/
def isGated : Source → Bool
  | .scores => false
  | .scripted _ _ gated => gated

/-- What the load of a key gives, as the load of this number. -/
def answer (source : Source) (number : Nat) (key : String) : Except String Bytes :=
  match source with
  | .scores => loadScore key
  | .scripted table fallback _ =>
    match table.lookup key with
    | some result => result
    | none =>
      match fallback with
      | .echo => .ok (Bytes.ofText key)
      | .count => .ok (Bytes.ofText (key ++ "#" ++ toString number))
      | .missing => .error (missingReport key)

end Source

/-- A remote owner of a key, and what it answers. -/
structure Remote where
  peer : String
  result : GetResult
  gated : Bool

/-- A remote owner that answers with a value. -/
def Remote.giving (peer : String) (value : Bytes) (gated : Bool) : Remote :=
  { peer, result := .ok value, gated }

/-- A remote owner that fails. The word `InvalidKey` stands for that error, any other text is the
reason why the peer is unavailable. -/
def Remote.failing (peer text : String) (gated : Bool) : Remote :=
  let error := if text = "InvalidKey" then .invalidKey else .peerUnavailable peer text
  { peer, result := .error error, gated }

/-- A scripted peer picker: the owners of some keys, and of all others. No owner means that the key
belongs to the group itself. -/
structure Picker where
  table : List (String × Option Remote)
  default : Option Remote

/-- The owner of a key. -/
def Picker.pick (picker : Picker) (key : String) : Option Remote :=
  (picker.table.lookup key).getD picker.default

end PeerCache.Bench
