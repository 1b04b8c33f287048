import PeerCache.Http.Host

/-! # Addresses

How an address is taken apart before a request is sent to it. Only addresses of the form
`http://host:port/path` can be asked. Addresses of other schemes are understood but refused, and a
text that is no address is not even repeated in the report.
-/

namespace PeerCache

/-- What an address comes to. -/
inductive Url where
  /-- A host with its port, and the target to ask it for. -/
  | http (host target : String)
  /-- An address that is understood and cannot be asked. -/
  | refused
  /-- No address. -/
  | malformed
deriving DecidableEq, Repr

namespace Url

/-! ## Authorities -/

/-- What stands between the two slashes of an address and its path. -/
structure Authority where
  /-- Whether a user is named in front of the host. -/
  namesUser : Bool
  host : List Char
  /-- What follows the colon behind the host. -/
  port : Option (List Char)
deriving DecidableEq, Repr

/-- Whether a text is the number of a port. -/
def isPort (port : List Char) : Bool := (Decimal.below? UInt16.size port).isSome

namespace Authority

/-- What precedes the first colon that does not stand between brackets. -/
def beforeColon (bracketed : Bool) : List Char → List Char
  | [] => []
  | char :: rest =>
    if char = ':' && !bracketed then []
    else char :: beforeColon (char == '[' || bracketed && char != ']') rest

/-- Take an authority apart. A user ends at the last at sign. -/
def ofText (text : List Char) : Authority :=
  let located := (text.reverse.takeWhile (· != '@')).reverse
  let host := beforeColon false located
  { namesUser := text.contains '@'
    host
    port := if host.length < located.length then some (located.drop (host.length + 1)) else none }

/-- Whether the port is left out, empty, or the number of a port. -/
def hasProperPort (authority : Authority) : Bool :=
  match authority.port with
  | none => true
  | some port => port.isEmpty || isPort port

/-- Whether there are a host and the number of a port, and nothing else. -/
def isHostAndPort (authority : Authority) : Bool :=
  !authority.namesUser && Host.isKnown authority.host && authority.port.any isPort

end Authority

/-! ## Schemes -/

/-- Whether a character may stand in the name of a scheme behind the first letter. -/
def isSchemeChar (char : Char) : Bool :=
  char.isAlphanum || char == '+' || char == '-' || char == '.'

/-- The well-known schemes that take a host, apart from `http`. -/
def knownSchemes : List String := ["https", "ws", "wss", "ftp"]

/-- Whether a character parts the path of a well-known scheme. -/
def isSlash (char : Char) : Bool := char == '/' || char == '\\'

/-- Whether an authority ends in front of a character. -/
def endsAuthority (char : Char) : Bool := char == '/' || char == '?' || char == '#'

/-- Whether an authority of a well-known scheme ends in front of a character. -/
def endsKnownAuthority (char : Char) : Bool := endsAuthority char || char == '\\'

/-- Whether every character of a host can be sent in a request line. -/
def isSendable (host : List Char) : Bool := !host.any "\"`\x7b\x7d".toList.contains

/-- What follows the colon of the scheme `http`. -/
def ofHttp : List Char → Url
  | '/' :: '/' :: rest =>
    let host := rest.takeWhile (!endsKnownAuthority ·)
    let target := rest.dropWhile (!endsKnownAuthority ·)
    if !(Authority.ofText host).isHostAndPort || target.head? != some '/' then .malformed
    else if isSendable host then
      .http (String.ofList host) (String.ofList (target.takeWhile (· != '#')))
    else .refused
  | _ => .malformed

/-- Whether what follows the colon of a well-known scheme is understood. It needs a host, behind any
number of slashes. -/
def isKnownUnderstood (rest : List Char) : Bool :=
  let authority := Authority.ofText <|
    (rest.dropWhile isSlash).takeWhile (!endsKnownAuthority ·)
  Host.isKnown authority.host && authority.hasProperPort

/-- Whether a text is the letter of a drive, which is part of a path. -/
def isDrive : List Char → Bool
  | [letter, mark] => letter.isAlpha && (mark == ':' || mark == '|')
  | _ => false

/-- Whether what follows the colon of the scheme `file` is understood. It may have a host. -/
def isFileUnderstood : List Char → Bool
  | first :: second :: rest =>
    let host := rest.takeWhile (!endsKnownAuthority ·)
    !(isSlash first && isSlash second) || host.isEmpty || isDrive host || Host.isKnown host
  | _ => true

/-- Whether what follows the colon of any other scheme is understood. Two slashes announce a host,
which may be left out altogether. Without them, everything is a matter of the scheme. -/
def isForeignUnderstood : List Char → Bool
  | '/' :: '/' :: rest =>
    let text := rest.takeWhile (!endsAuthority ·)
    let authority := Authority.ofText text
    text.isEmpty || Host.isForeign authority.host && authority.hasProperPort
  | _ => true

/-- Whether an address of a scheme other than `http` is understood. -/
def isUnderstood (scheme : String) (rest : List Char) : Bool :=
  if knownSchemes.contains scheme then isKnownUnderstood rest
  else if scheme = "file" then isFileUnderstood rest
  else isForeignUnderstood rest

/-! ## Reading -/

/-- Whether a character shows nothing, so that it does not count around an address. -/
def isBlank (char : Char) : Bool := char.toNat ≤ 32

/-- Whether a character only breaks a text into lines or columns, so that it does not count anywhere
in an address. -/
def isBreak (char : Char) : Bool := char == '\t' || char == '\n' || char == '\r'

/-- The characters of a text that count in an address. -/
def significant (text : List Char) : List Char :=
  ((text.dropWhile isBlank).reverse.dropWhile isBlank).reverse.filter (!isBreak ·)

/-- Take an address apart. -/
def parse (text : String) : Url :=
  let text := significant text.toList
  let scheme := text.takeWhile isSchemeChar
  match scheme, text.dropWhile isSchemeChar with
  | first :: _, ':' :: rest =>
    let name := (String.ofList scheme).toLower
    if !first.isAlpha then .malformed
    else if name = "http" then ofHttp rest
    else if isUnderstood name rest then .refused
    else .malformed
  | _, _ => .malformed

end Url

end PeerCache
