import PeerCache.Cluster.Exchange
import PeerCache.Demo.Options
import PeerCache.Demo.Scores

/-! # The demo node

A demo node serves the score table to its peers, and to people if its front api is started. Here it
is a cluster of one node, in which nobody answers for the other peers. A get of a key that belongs
to one of them therefore fails to fetch and turns to the score table.
-/

namespace PeerCache.Demo

/-- The scores group of a node. -/
def Options.scoresGroup (options : Options) : Hosted :=
  { group := .create "scores" { capacity := options.capacity, policy := options.policy }
    load := fun _ key => loadScore key
    isLogged := false
    returns := true }

/-- A cluster of one node, set up by some options. -/
def Options.start (options : Options) : Cluster :=
  let node := ClusterNode.create ("http://" ++ options.ownHost) {}
  let member := (node.add options.scoresGroup).registerPool
  ((Cluster.empty .connected).add member).setPeers 0 options.peers

/-- Who a request is addressed to. -/
inductive Recipient where
  /-- The peer server of the node. -/
  | peerServer
  /-- The front api. -/
  | frontApi
  /-- Somebody who does not answer. -/
  | nobody
deriving DecidableEq, Repr

/-- Who answers at a host. -/
def Options.recipient (options : Options) (host : String) : Recipient :=
  if host = options.ownHost then .peerServer
  else if options.startsApi ∧ host = options.apiHost then .frontApi
  else .nobody

/-- Let the node answer a request for an address. There is no answer if nobody listens there. -/
def Options.answer (options : Options) (cluster : Cluster) (method url : String) :
    Checked (Option Response × Cluster) :=
  match Url.parse url with
  | .http host target =>
    let request := Request.ofTarget method target
    match options.recipient host with
    | .peerServer => do
      let (response, cluster) ← Cluster.serve Cluster.get cluster 0 request
      return (some response, cluster)
    | .frontApi => do
      let (response, cluster) ← Cluster.serveApi Cluster.get cluster 0 0 request
      return (some response, cluster)
    | .nobody => .ok (none, cluster)
  | _ => .ok (none, cluster)

/-- The lines in front of the body of a response. -/
def headLines (response : Response) : List String :=
  [Status.describe response.status, "content-type: " ++ response.contentType,
    "content-length: " ++ toString response.contentLength, ""]

/-- The method and the address on a line. Without a method, it is `GET`. -/
def methodAndUrl? (line : String) : Option (String × String) :=
  let words := (line.toList.splitOn ' ').filter fun word => !word.isEmpty
  match words.map String.ofList with
  | [url] => some ("GET", url)
  | [method, url] => some (method, url)
  | _ => none

end PeerCache.Demo
