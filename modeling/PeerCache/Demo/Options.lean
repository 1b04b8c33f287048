import PeerCache.Eviction.Policy
import PeerCache.Text.Decimal

/-! # Command line of the demo

An option is written `--name value` or `--name=value`. Every option but the peers can be given once,
and what is not given has a default. The first mistake on a command line decides what is reported.
-/

namespace PeerCache.Demo

open Eviction (Policy)

/-- How a demo node is set up. -/
structure Options where
  /-- The number of the node's own port. -/
  port : Nat
  /-- The host that the other peers reach the node by. -/
  host : String
  /-- The addresses of all peers, the node itself included. -/
  peers : List String
  /-- Whether the front api is started. -/
  startsApi : Bool
  /-- The host and port of the front api. -/
  apiHost : String
  /-- The byte budget of the scores group. Zero means that there is none. -/
  capacity : Nat
  /-- The eviction policy of the scores group. -/
  policy : Policy
deriving DecidableEq, Repr

/-- A mistake on the command line. -/
inductive Misuse where
  /-- A word that names no option and follows none that takes a value. -/
  | unexpected (word : String)
  /-- An option at the end that takes a value. -/
  | missingValue (option : String)
  /-- An option that was given before. -/
  | repeated (option : String)
  /-- A value that its option does not take. -/
  | invalidValue (option value reason : String)
deriving DecidableEq, Repr

/-- What is reported about a mistake. -/
def Misuse.message : Misuse → String
  | .unexpected word => "unexpected argument: " ++ word
  | .missingValue option => "a value is required for " ++ option
  | .repeated option => option ++ " cannot be used multiple times"
  | .invalidValue option value reason =>
    "invalid value " ++ value ++ " for " ++ option ++ ": " ++ reason

/-- The options that were given so far. -/
structure Given where
  port : Option Nat := none
  host : Option String := none
  /-- The given peers, the last one first. -/
  peers : List String := []
  startsApi : Option Unit := none
  apiHost : Option String := none
  capacity : Option Nat := none
  policy : Option Policy := none
deriving DecidableEq, Repr

namespace Given

/-- A value for an option that may be given once. -/
def once {α : Type} (option : String) (before : Option α) (value : α) : Except Misuse (Option α) :=
  if before.isSome then .error (.repeated option) else .ok (some value)

/-- A number below a bound for an option that may be given once. -/
def onceNumber (option : String) (bound : Nat) (before : Option Nat) (digits : String) :
    Except Misuse (Option Nat) :=
  match Decimal.below? bound digits.toList with
  | some value => once option before value
  | none => .error (.invalidValue option digits ("not a number below " ++ toString bound))

/-- Whether an option takes a value. -/
def takesValue (option : String) : Bool :=
  ["--port", "--host", "--peer", "--api-addr", "--capacity", "--eviction"].contains option

/-- Take in an option with its value. -/
def set (given : Given) (option value : String) : Except Misuse Given :=
  match option with
  | "--port" => return { given with port := ← onceNumber option UInt16.size given.port value }
  | "--host" => return { given with host := ← once option given.host value }
  | "--peer" => return { given with peers := value :: given.peers }
  | "--api-addr" => return { given with apiHost := ← once option given.apiHost value }
  | "--capacity" =>
    return { given with capacity := ← onceNumber option UInt64.size given.capacity value }
  | "--eviction" =>
    match Policy.parse value with
    | .ok policy => return { given with policy := ← once option given.policy policy }
    | .error unknown => .error (.invalidValue option value unknown.message)
  | _ => .error (.unexpected option)

/-- Take in the words of a command line. -/
def read (given : Given) : List String → Except Misuse Given
  | [] => .ok given
  | word :: rest =>
    if word = "--api" then do
      read { given with startsApi := ← once word given.startsApi () } rest
    else if takesValue word then
      match rest with
      | [] => .error (.missingValue word)
      | value :: rest => do read (← given.set word value) rest
    else .error (.unexpected word)

/-- The options with their defaults. -/
def complete (given : Given) : Options :=
  { port := given.port.getD 8001
    host := given.host.getD "localhost"
    peers :=
      if given.peers.isEmpty then
        ["http://localhost:8001", "http://localhost:8002", "http://localhost:8003"]
      else given.peers.reverse
    startsApi := given.startsApi.isSome
    apiHost := given.apiHost.getD "localhost:9999"
    capacity := given.capacity.getD 2048
    policy := given.policy.getD .standard }

end Given

namespace Options

/-- A word of the form `--name=value` as two words. -/
def separate (word : String) : List String :=
  if "--".toList.isPrefixOf word.toList && word.toList.contains '=' then
    [String.ofList (word.toList.takeWhile (· != '=')),
      String.ofList ((word.toList.dropWhile (· != '=')).drop 1)]
  else [word]

/-- Read a command line. -/
def parse (words : List String) : Except Misuse Options := do
  return (← Given.read {} (words.flatMap separate)).complete

/-- The host and port of the node's own peer server. -/
def ownHost (options : Options) : String := options.host ++ ":" ++ toString options.port

end Options

end PeerCache.Demo
