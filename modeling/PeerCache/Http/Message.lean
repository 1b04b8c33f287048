import PeerCache.Text.Utf8

/-! # Requests and responses -/

namespace PeerCache

/-- A request as far as the servers of this library look at it. -/
structure Request where
  method : String
  path : String
  /-- What follows the first question mark, empty if there is none. -/
  query : String
deriving DecidableEq, Repr

/-- The request for a target, which is a path with or without a query. -/
def Request.ofTarget (method target : String) : Request :=
  { method
    path := String.ofList (target.toList.takeWhile (· != '?'))
    query := String.ofList ((target.toList.dropWhile (· != '?')).drop 1) }

/-- An answer to a request. -/
structure Response where
  status : Nat
  contentType : String
  body : Bytes
deriving DecidableEq, Repr

namespace Response

/-- An answer in words. -/
def text (status : Nat) (words : String) : Response :=
  { status, contentType := "text/plain; charset=utf-8", body := Bytes.ofText words }

/-- An answer that is a value. -/
def value (bytes : Bytes) : Response :=
  { status := 200, contentType := "application/octet-stream", body := bytes }

/-- The length that the header of an answer announces. -/
def contentLength (response : Response) : Nat := response.body.length

/-- The body as it is sent: an answer to `HEAD` announces its length and is not sent. -/
def sentBody (response : Response) (method : String) : Bytes :=
  if method = "HEAD" then [] else response.body

end Response

end PeerCache
