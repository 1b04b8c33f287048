import PeerCache.Cluster.Basic
import PeerCache.Http.FrontApi
import PeerCache.Http.PeerRoutes
import PeerCache.Http.Status
import PeerCache.Http.Url

/-! # Exchanges in a cluster

A get at a node may fetch from a peer, whose server runs a get of its own, and so on. Gets here run
to their end one after the other, so a chain of fetches that comes back to a group it has passed
would wait for itself; that is reported as a stall. A chain that does not come back passes every
group at most once, which bounds its length.
-/

namespace PeerCache

/-- The client for the routes of one peer. -/
structure Getter where
  /-- What all addresses of the peer's routes start with. It is also the name of the peer. -/
  baseUrl : String
deriving DecidableEq, Repr

namespace Getter

/-- The address of a key of a group. -/
def url (getter : Getter) (group key : String) : String :=
  getter.baseUrl ++ Segment.encode group ++ "/" ++ Segment.encode key

/-- A failed fetch. -/
def unavailable (getter : Getter) (reason : String) : GetResult :=
  .error (.peerUnavailable getter.baseUrl reason)

/-- The result of a fetch that was answered, from the status, the body and its announced length. -/
def received (getter : Getter) (status : Nat) (body : Bytes) (announced : Nat) : GetResult :=
  if status ≠ 200 then getter.unavailable ("server returned: " ++ Status.describe status)
  else if body.length < announced then
    getter.unavailable "reading response body: error decoding response body"
  else .ok (body.take announced)

/-- The result of a fetch that was answered with a response. -/
def taken (getter : Getter) (response : Response) : GetResult :=
  getter.received response.status response.body response.contentLength

end Getter

/-- Why somebody outside a cluster gets no answer from it. -/
inductive Outage where
  /-- No request arrives anywhere. -/
  | severed
deriving DecidableEq, Repr

/-- What is reported of an outage. -/
def Outage.message : Outage → String
  | .severed => "request failed"

namespace Cluster

/-- A get at a group of a node, both given by position. -/
abbrev GetAt := Cluster → (node group : Nat) → (key : String) → Checked (GetResult × Cluster)

/-- Let the peer server of a node answer a request. -/
def serve (get : GetAt) (cluster : Cluster) (node : Nat) (request : Request) :
    Checked (Response × Cluster) :=
  match cluster.nodes[node]? with
  | none => .error (.unknown node)
  | some member =>
    match PeerRoutes.dispatch member.pool.options.basePath member.registry.get? request with
    | .error refusal => .ok (refusal.response, cluster)
    | .ok (group, key) => do
      let counted := cluster.modifyHosted node group fun hosted =>
        { hosted with group := hosted.group.recordRequest }
      let (result, cluster) ← get counted node group key
      return (PeerRoutes.respond result, cluster)

/-- Let the front api of a group answer a request. -/
def serveApi (get : GetAt) (cluster : Cluster) (node group : Nat) (request : Request) :
    Checked (Response × Cluster) :=
  match FrontApi.key? request with
  | none => .ok (FrontApi.notFound, cluster)
  | some key => do
    let (result, cluster) ← get cluster node group key
    return (FrontApi.respond result, cluster)

/-- Fetch a key of a group from a peer, with any way of taking addresses apart. -/
def fetchThrough (parse : String → Url) (get : GetAt) (cluster : Cluster) (getter : Getter)
    (group key : String) : Checked (GetResult × Cluster) :=
  let url := getter.url group key
  match parse url with
  | .malformed => .ok (getter.unavailable "builder error", cluster)
  | .refused => .ok (getter.unavailable ("builder error for url (" ++ url ++ ")"), cluster)
  | .http host target =>
    let unsent := getter.unavailable ("error sending request for url (" ++ url ++ ")")
    if cluster.network = .severed then .ok (unsent, cluster)
    else
      let cluster := cluster.note [.wire "GET" url]
      match cluster.hosts[host]? with
      | none => .ok (unsent, cluster)
      | some (.stub status body announced) => .ok (getter.received status body announced, cluster)
      | some (.node position) => do
        let (response, cluster) ← serve get cluster position (.ofTarget "GET" target)
        return (getter.taken response, cluster)

/-- Fetch a key of a group from a peer. -/
def fetch (get : GetAt) (cluster : Cluster) (getter : Getter) (group key : String) :
    Checked (GetResult × Cluster) :=
  fetchThrough Url.parse get cluster getter group key

/-- Call the loader of a group for a get that asked for it. -/
def loadAt (cluster : Cluster) (node group call : Nat) (key : String) :
    Checked (GetResult × Cluster) :=
  match cluster.nodes[node]?, cluster.hosted? node group with
  | some member, some hosted =>
    if !hosted.returns then .error .stalled
    else do
      let number := hosted.loads + 1
      let (departures, after, progress) ← hosted.group.loaded call (hosted.load number key)
      let loading := if hosted.isLogged then [.load member.base key] else []
      let heard := (hosted.group.plan.reported departures).map (ClusterNote.evict member.base)
      let cluster := (cluster.note (loading ++ heard)).modifyHosted node group fun hosted =>
        { hosted with group := after, loads := number }
      match progress with
      | .finished result => return (result, cluster)
      | _ => throw (.unasked call)
  | _, _ => .error (.unknown node)

/-- Bring the answer of a peer to a get that asked for it. If there is no value, the loader is
turned to. -/
def answerAt (cluster : Cluster) (node group call : Nat) (result : GetResult) :
    Checked (GetResult × Cluster) :=
  match cluster.hosted? node group with
  | none => .error (.unknown node)
  | some hosted => do
    let (after, progress) ← hosted.group.fetched call result
    let cluster := cluster.modifyHosted node group fun hosted => { hosted with group := after }
    match progress with
    | .finished result => return (result, cluster)
    | .asks (.load key) => cluster.loadAt node group call key
    | _ => throw (.unasked call)

/-- Run a get to its end, where a get that it needs at another node is run by `remote`. -/
def getVia (remote : GetAt) : GetAt := fun cluster node group key =>
  match cluster.nodes[node]?, cluster.hosted? node group with
  | some member, some hosted => do
    let call := hosted.group.liveCalls.foldl max 0 + 1
    let (after, progress) ← (hosted.group.call call key).poll call (member.pool.pick key)
    let cluster := cluster.modifyHosted node group fun hosted => { hosted with group := after }
    match progress with
    | .finished result => return (result, cluster)
    | .asks (.load key) => cluster.loadAt node group call key
    | .asks (.fetch peer name key) =>
      let (result, cluster) ← fetch remote cluster ⟨peer⟩ name key
      cluster.answerAt node group call result
    | .waits => throw .stalled
    | _ => throw (.unasked call)
  | _, _ => .error (.unknown node)

/-- Run a get through at most so many groups. -/
def getWithin : (groups : Nat) → GetAt
  | 0 => fun _ _ _ _ => .error .stalled
  | groups + 1 => getVia (getWithin groups)

/-- Run a get to its end. -/
def get : GetAt := fun cluster => getWithin (cluster.groupCount + 1) cluster

/-! ## Requests from outside -/

/-- Send a request to the peer server of a node, whatever the table of hosts says. -/
def request (cluster : Cluster) (node : Nat) (request : Request) :
    Checked (Except Outage Response × Cluster) :=
  if cluster.network = .severed then .ok (.error .severed, cluster)
  else do
    let (response, cluster) ← serve get cluster node request
    return (.ok response, cluster)

/-- Send a request to the front api of a group. -/
def requestApi (cluster : Cluster) (node group : Nat) (request : Request) :
    Checked (Except Outage Response × Cluster) :=
  if cluster.network = .severed then .ok (.error .severed, cluster)
  else do
    let (response, cluster) ← serveApi get cluster node group request
    return (.ok response, cluster)

end Cluster

end PeerCache
