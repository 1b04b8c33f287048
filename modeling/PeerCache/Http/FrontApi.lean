import PeerCache.Error
import PeerCache.Http.Message
import PeerCache.Http.Query

/-! # The front api

The demo node also answers people, under one path, with the key as a parameter of the query.
-/

namespace PeerCache.FrontApi

/-- The key that a request is for, if it is for the api's only path. The method does not matter. -/
def key? (request : Request) : Option String :=
  if request.path = "/api" then some (Query.value "key" request.query) else none

/-- The answer outside the api's path. -/
def notFound : Response := .text 404 "not found"

/-- The answer that carries the result of a get. -/
def respond : Except Error Bytes → Response
  | .ok value => .value value
  | .error error => .text 500 error.message

end PeerCache.FrontApi
