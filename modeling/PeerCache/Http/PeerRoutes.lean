import PeerCache.Error
import PeerCache.Http.Message
import PeerCache.Http.Segment

/-! # The routes between peers

A peer asks for a value with `GET`, under the base path, followed by the group and the key as two
segments. A request is checked from left to right, and the first thing wrong with it decides the
answer. A request that passes is for one group and one key.
-/

namespace PeerCache.PeerRoutes

/-- What is wrong with a request. -/
inductive Refusal where
  /-- The method is not `GET`. -/
  | methodNotAllowed
  /-- The path does not start with the base path. -/
  | unexpectedPath (path : String)
  /-- What follows the base path is not two segments of UTF-8. -/
  | badRequest
  /-- The group is not registered. -/
  | unknownGroup (name : String)
deriving DecidableEq, Repr

/-- The answer to a refused request. -/
def Refusal.response : Refusal → Response
  | .methodNotAllowed => .text 405 "method not allowed"
  | .unexpectedPath path => .text 404 ("unexpected path: " ++ path)
  | .badRequest => .text 400 "bad request"
  | .unknownGroup name => .text 404 (Error.unknownGroup name).message

/-- What follows the base path, if the path starts with it. -/
def underBase? (basePath path : String) : Option (List Char) :=
  if basePath.toList.isPrefixOf path.toList then some (path.toList.drop basePath.length) else none

/-- The group and the key of two segments. The path is split before the escapes are read, so an
escaped slash is part of a segment. -/
def groupAndKey? (rest : List Char) : Option (String × String) :=
  match rest.splitOn '/' with
  | [group, key] => do
    return (← Segment.decode? (String.ofList group), ← Segment.decode? (String.ofList key))
  | _ => none

/-- The group and the key that a request is for, where `find?` finds a group by its name. -/
def dispatch {γ : Type} (basePath : String) (find? : String → Option γ) (request : Request) :
    Except Refusal (γ × String) :=
  if request.method ≠ "GET" then .error .methodNotAllowed
  else
    match underBase? basePath request.path with
    | none => .error (.unexpectedPath request.path)
    | some rest =>
      match groupAndKey? rest with
      | none => .error .badRequest
      | some (name, key) =>
        match find? name with
        | none => .error (.unknownGroup name)
        | some group => .ok (group, key)

/-- The answer that carries the result of a get. -/
def respond : Except Error Bytes → Response
  | .ok value => .value value
  | .error .invalidKey => .text 400 Error.invalidKey.message
  | .error error => .text 500 error.message

end PeerCache.PeerRoutes
