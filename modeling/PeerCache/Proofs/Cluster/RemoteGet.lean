import PeerCache.Proofs.Cluster.OneHop
import PeerCache.Proofs.Http.Paths

/-! # A remote fetch is a remote get

A getter and the peer server of a pool with the same base path understand each other whatever the
group and the key are: the path that the getter asks for is one that nobody changes on its way, the
server reads back the group and the key from it, and the getter takes from the answer exactly the
value that the get at the server came to. Any other result is reported as a peer that is not
available.
-/

namespace PeerCache

/-- The path under which a node serves a key of a group. -/
def ClusterNode.pathOf (node : ClusterNode) (name key : String) : String :=
  node.pool.options.basePath ++ Segment.encode name ++ "/" ++ Segment.encode key

namespace Cluster

/-- The cluster in which a getter's request for a key of a group has reached a node. -/
def reached (cluster : Cluster) (url : String) (node group : Nat) : Cluster :=
  (cluster.note [.wire "GET" url]).modifyHosted node group fun hosted =>
    { hosted with group := hosted.group.recordRequest }

/-- What it means for a fetch of a key by a getter that it is a get at the node which answers at a
host. -/
structure RemoteGet (reader : Url.Reader) (get : GetAt) (cluster : Cluster) (getter : Getter)
    (host : String) (node : Nat) (member : ClusterNode) (name key : String) : Prop where
  /-- The path that is asked for is left alone on its way. -/
  kept : Url.IsKept reader.drops (member.pathOf name key)
  asked : reader.parse (getter.url name key) = .http host (member.pathOf name key)
  /-- The server reads back the group and the key, and nothing else decides its answer. -/
  read : ∀ find? : String → Option Nat, PeerRoutes.dispatch member.pool.options.basePath find?
      (.ofTarget "GET" (member.pathOf name key)) =
    match find? name with
    | none => .error (.unknownGroup name)
    | some group => .ok (group, key)
  /-- The fetch returns, unless the name is registered and the get of its group does not. -/
  returns : (∃ result after,
      fetchThrough reader.parse get cluster getter name key = .ok (result, after)) ↔
    ∀ group, member.registry.get? name = some group → ∃ result after,
      get (cluster.reached (getter.url name key) node group) node group key = .ok (result, after)
  /-- It returns a value if the name is registered and the get of its group comes to that value. -/
  value : ∀ value after,
    fetchThrough reader.parse get cluster getter name key = .ok (.ok value, after) ↔
      ∃ group, member.registry.get? name = some group ∧
        get (cluster.reached (getter.url name key) node group) node group key =
          .ok (.ok value, after)
  /-- In any other case it returns that the peer is not available. -/
  failure : ∀ cause after,
    fetchThrough reader.parse get cluster getter name key = .ok (.error cause, after) →
      ∃ reason, cause = .peerUnavailable getter.baseUrl reason

/-! ## Answers as getters take them -/

private theorem taken_value (getter : Getter) (value : Bytes) :
    getter.taken (PeerRoutes.respond (.ok value)) = .ok value := by
  simp [Getter.taken, PeerRoutes.respond, Response.value, Response.contentLength, Getter.received]

/-- A getter reports any answer but that of a value. -/
theorem taken_other (getter : Getter) {response : Response} (other : response.status ≠ 200) :
    getter.taken response = .error (.peerUnavailable getter.baseUrl
      ("server returned: " ++ Status.describe response.status)) := by
  simp [Getter.taken, Getter.received, other, Getter.unavailable]

private theorem status_respond_error (cause : Error) :
    (PeerRoutes.respond (.error cause)).status ≠ 200 := by
  cases cause <;> simp [PeerRoutes.respond, Response.text]

theorem status_refusal (refusal : PeerRoutes.Refusal) : refusal.response.status ≠ 200 := by
  cases refusal <;> simp [PeerRoutes.Refusal.response, Response.text]

theorem eq_of_taken {getter : Getter} {result : GetResult} {value : Bytes}
    (taken : getter.taken (PeerRoutes.respond result) = .ok value) : result = .ok value := by
  cases result with
  | ok found => rwa [taken_value] at taken
  | error cause =>
    rw [taken_other getter (status_respond_error cause)] at taken
    cases taken

private theorem exists_reason {getter : Getter} {result : GetResult} {cause : Error}
    (taken : getter.taken (PeerRoutes.respond result) = .error cause) :
    ∃ reason, cause = .peerUnavailable getter.baseUrl reason := by
  cases result with
  | ok value =>
    rw [taken_value] at taken
    cases taken
  | error other =>
    rw [taken_other getter (status_respond_error other)] at taken
    cases taken
    exact ⟨_, rfl⟩

/-! ## Fetches from a server that is up -/

section

variable {reader : Url.Reader} {cluster : Cluster} {getter : Getter} {host : String} {node : Nat}
  {member : ClusterNode} {name key : String}

private theorem dispatch_pathOf {γ : Type} (find? : String → Option γ)
    (kept : Url.IsKept reader.drops (member.pathOf name key)) :
    PeerRoutes.dispatch member.pool.options.basePath find?
        (.ofTarget "GET" (member.pathOf name key)) =
      match find? name with
      | none => .error (.unknownGroup name)
      | some group => .ok (group, key) := by
  rw [Request.ofTarget_plain kept.isPlainPath]
  exact PeerRoutes.dispatch_encode member.pool.options.basePath find? name key ""

/-- What is made of the result of a get is there when the get has come to its end. -/
theorem returned_iff {α : Type} (answer : GetResult → α) {getting : Checked (GetResult × Cluster)}
    {returned : α} {after : Cluster} :
    (do
      let (given, after) ← getting
      return (answer given, after) : Checked (α × Cluster)) = .ok (returned, after) ↔
      ∃ given, getting = .ok (given, after) ∧ returned = answer given := by
  rw [Checked.bind_eq_ok_iff]
  constructor
  · rintro ⟨⟨given, after⟩, got, same⟩
    cases same
    exact ⟨given, got, rfl⟩
  · rintro ⟨given, got, rfl⟩
    exact ⟨(given, after), got, rfl⟩

/-- What a fetch from a server that is up comes to: the server refuses it, or runs a get. -/
private theorem fetchThrough_eq (connected : cluster.network = .connected)
    (answers : cluster.hosts[host]? = some (.node node))
    (found : cluster.nodes[node]? = some member)
    (kept : Url.IsKept reader.drops (member.pathOf name key))
    (asked : reader.parse (getter.url name key) = .http host (member.pathOf name key))
    (get : GetAt) :
    fetchThrough reader.parse get cluster getter name key =
      match member.registry.get? name with
      | none => .ok (getter.taken (PeerRoutes.Refusal.unknownGroup name).response,
          cluster.note [.wire "GET" (getter.url name key)])
      | some group => do
        let (result, after) ←
          get (cluster.reached (getter.url name key) node group) node group key
        return (getter.taken (PeerRoutes.respond result), after) := by
  have answers' : ∀ notes, (cluster.note notes).hosts[host]? = some (.node node) := fun _ => answers
  have found' : ∀ notes, (cluster.note notes).nodes[node]? = some member := fun _ => found
  have severed : (Network.connected = Network.severed) = False := by simp
  simp only [fetchThrough, asked, connected, severed, if_false, answers', serve, found',
    dispatch_pathOf _ kept]
  cases member.registry.get? name with
  | none => rfl
  | some group =>
    simp only [reached]
    cases get ((cluster.note _).modifyHosted node group _) node group key <;> rfl

end

/-- A getter of a server that is up fetches what the get at that server comes to. -/
theorem remoteGet {reader : Url.Reader} {cluster : Cluster} {base host : String} {node : Nat}
    {member : ClusterNode} (connected : cluster.network = .connected)
    (answers : cluster.hosts[host]? = some (.node node))
    (found : cluster.nodes[node]? = some member) (fits : reader.Fits base host)
    (kept : Url.IsKept reader.drops member.pool.options.basePath)
    (ends : member.pool.options.basePath.toList.getLast? = some '/') (get : GetAt)
    (name key : String) :
    RemoteGet reader get cluster ⟨base ++ member.pool.options.basePath⟩ host node member name
      key := by
  have kept : Url.IsKept reader.drops (member.pathOf name key) := kept.append fits ends name key
  have asked : reader.parse ((Getter.mk (base ++ member.pool.options.basePath)).url name key) =
      .http host (member.pathOf name key) := by
    rw [← fits.parses _ kept]
    simp only [Getter.url, ClusterNode.pathOf, String.append_assoc]
  have fetched := fetchThrough_eq connected answers found kept asked get
  have read : ∀ find? : String → Option Nat, PeerRoutes.dispatch member.pool.options.basePath find?
      (.ofTarget "GET" (member.pathOf name key)) =
        match find? name with
        | none => .error (.unknownGroup name)
        | some group => .ok (group, key) := by
    intro find?
    rw [dispatch_pathOf find? kept]
    cases find? name <;> rfl
  cases registered : member.registry.get? name with
  | none =>
    rw [registered, taken_other _ (status_refusal _)] at fetched
    exact {
      kept, asked, read
      returns := by simp [fetched, registered]
      value := by simp [fetched, registered]
      failure := by
        rintro cause after returned
        rw [fetched] at returned
        cases returned
        exact ⟨_, rfl⟩ }
  | some group =>
    rw [registered] at fetched
    have returned : ∀ result after, fetchThrough reader.parse get cluster
        ⟨base ++ member.pool.options.basePath⟩ name key = .ok (result, after) ↔
          ∃ given, get (cluster.reached (Getter.url ⟨base ++ member.pool.options.basePath⟩ name key)
              node group) node group key = .ok (given, after) ∧
            result = Getter.taken ⟨base ++ member.pool.options.basePath⟩
              (PeerRoutes.respond given) := by
      intro result after
      rw [fetched]
      exact returned_iff fun given => Getter.taken _ (PeerRoutes.respond given)
    exact {
      kept, asked, read
      returns := by
        simp only [returned, registered, Option.some.injEq, forall_eq']
        constructor
        · rintro ⟨result, after, given, got, -⟩
          exact ⟨given, after, got⟩
        · rintro ⟨given, after, got⟩
          exact ⟨_, after, given, got, rfl⟩
      value := by
        intro value after
        simp only [returned, registered, Option.some.injEq, exists_eq_left']
        constructor
        · rintro ⟨given, got, taken⟩
          rwa [← eq_of_taken taken.symm]
        · intro got
          exact ⟨_, got, (taken_value _ value).symm⟩
      failure := by
        intro cause after failed
        obtain ⟨given, -, taken⟩ := (returned _ _).mp failed
        exact exists_reason taken.symm }

/-- The second of two nodes is asked for a key that is full of marks. -/
theorem remoteGet_echoPair :
    (echoPair 50).network = .connected ∧
      (echoPair 50).hosts["localhost:8002"]? = some (.node 1) ∧
      (echoPair 50).nodes[1]? = some (echo 50 "http://localhost:8002") ∧
      Url.reader.Fits ("http://" ++ "localhost:8002") "localhost:8002" ∧
      Url.IsKept Url.reader.drops (echo 50 "http://localhost:8002").pool.options.basePath ∧
      (echo 50 "http://localhost:8002").pool.options.basePath.toList.getLast? = some '/' ∧
      RemoteGet Url.reader get (echoPair 50)
        ⟨"http://" ++ "localhost:8002" ++ (echo 50 "http://localhost:8002").pool.options.basePath⟩
        "localhost:8002" 1 (echo 50 "http://localhost:8002") "scores" "~/../%?#\x00" :=
  have found := getElem?_echoPair.mpr (.inr ⟨rfl, rfl⟩)
  have fits : Url.reader.Fits ("http://" ++ "localhost:8002") "localhost:8002" :=
    Url.fits_reader (by decide +kernel)
  have kept : Url.IsKept Url.reader.drops "/_hint/" := ⟨by decide, by decide +kernel⟩
  ⟨rfl, (hosts_echoPair 50).2, found, fits, kept, rfl,
    remoteGet rfl (hosts_echoPair 50).2 found fits kept rfl get "scores" "~/../%?#\x00"⟩

/-- The dots of a parent directory and the slash in a key do not show in a path. -/
example : (echo 50 "http://localhost:8001").pathOf ".." "a/b~" = "/_hint/~../a%2Fb~" := by
  decide +kernel

end Cluster

end PeerCache
