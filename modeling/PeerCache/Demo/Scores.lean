import PeerCache.Text.Utf8

/-! # The score table of the demo

The demo node serves a table of three scores. Any other key is reported as missing.
-/

namespace PeerCache

/-- What a loader reports about a key that it has nothing for. -/
def missingReport (key : String) : String := key ++ " not exist"

/-- The scores of the demo. -/
def scores : List (String × String) := [("Tom", "630"), ("Jack", "589"), ("Sam", "567")]

/-- Load a score. -/
def loadScore (key : String) : Except String Bytes :=
  match scores.lookup key with
  | some score => .ok (Bytes.ofText score)
  | none => .error (missingReport key)

end PeerCache
