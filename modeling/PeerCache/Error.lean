import PeerCache.Text.Record

/-! # Errors

What a caller of the library can be told instead of a value, and the text of each report.
-/

namespace PeerCache

/-- Why a value or a group is not to be had. -/
inductive Error where
  /-- The key is empty. -/
  | invalidKey
  /-- The loader failed, in its own words. -/
  | loader (text : String)
  /-- A peer could not be asked, or did not answer with a value. -/
  | peerUnavailable (peer reason : String)
  /-- No group of this name is registered. -/
  | unknownGroup (name : String)
  /-- A group was to be built without a loader. -/
  | missingLoader (group : String)
  /-- The group has a peer picker already. -/
  | peersAlreadyRegistered (group : String)
deriving DecidableEq, Repr

namespace Error

/-- The report of an error. A loader's text is passed on as it is. -/
def message : Error → String
  | .invalidKey => "key is required"
  | .loader text => text
  | .peerUnavailable peer reason => "peer " ++ peer ++ " unavailable: " ++ reason
  | .unknownGroup name => "no such group: " ++ name
  | .missingLoader group => "group " ++ group ++ " requires a loader"
  | .peersAlreadyRegistered group => "peer picker of group " ++ group ++ " is already registered"

/-- The diagnostic text of an error. -/
def describe : Error → String
  | .invalidKey => "InvalidKey"
  | .loader text => Describe.tagged "Loader" (Describe.quoted text)
  | .peerUnavailable peer reason =>
    Describe.fields "PeerUnavailable"
      [("peer", Describe.quoted peer), ("reason", Describe.quoted reason)]
  | .unknownGroup name => Describe.tagged "UnknownGroup" (Describe.quoted name)
  | .missingLoader group => Describe.fields "MissingLoader" [("group", Describe.quoted group)]
  | .peersAlreadyRegistered group =>
    Describe.fields "PeersAlreadyRegistered" [("group", Describe.quoted group)]

end Error

end PeerCache
