import PeerCache.Proofs.Cluster.Placement
import PeerCache.Proofs.Group.Solitude
import PeerCache.Proofs.Http.Addresses

/-! # Exchanges with groups at rest

A group at rest has no get under way and stores only what its loader gives for keys that it may
keep. A get that the pool of its node keeps is run by the group alone, so that it comes to what the
loader gives without a request being sent. That is how a peer server answers for such a key, and a
getter takes from the answer what the loader gave, or that it gave nothing. So a get that is sent on
comes to what the loader gives after a single request, even where the loader fails on both sides.
-/

namespace PeerCache

/-- Whether a note tells of a request that was sent. -/
def ClusterNote.isWire : ClusterNote → Bool
  | .wire _ _ => true
  | .load _ _ => false
  | .evict _ _ => false

/-- The request for a key of a group. -/
def PeerRoutes.requestFor (basePath name key : String) : Request :=
  { method := "GET"
    path := basePath ++ Segment.encode name ++ "/" ++ Segment.encode key
    query := "" }

namespace Cluster

/-- What a get of a key comes to where a loader decides. -/
def answer (load : String → Except String Bytes) (key : String) : GetResult :=
  if key = "" then .error .invalidKey else (load key).mapError .loader

/-- The requests that notes tell of. -/
def wires (notes : List ClusterNote) : List ClusterNote := notes.filter ClusterNote.isWire

/-- A group of a name serves what a loader gives, turns to the peers first, and stores values only
for keys that it may keep. -/
structure Serves (name : String) (load : String → Except String Bytes) (keeps : String → Prop)
    (hosted : Hosted) : Prop where
  named : hosted.group.name = name
  picks : hosted.group.hasPeers = true
  loads : ∀ number key, hosted.load number key = load key
  returns : hosted.returns = true
  stored : ∀ key value, hosted.group.peek key = some value → load key = .ok value ∧ keeps key

/-- It does so, and no get is under way. -/
structure Rests (name : String) (load : String → Except String Bytes) (keeps : String → Prop)
    (hosted : Hosted) : Prop extends Serves name load keeps hosted where
  quiet : hosted.group.Quiet

/-- The request of a getter for a key of a group reaches the peer server of a node unchanged. -/
def Delivers (cluster : Cluster) (getter : Getter) (node : Nat) (basePath name key : String) :
    Prop :=
  ∃ host target, Url.parse (getter.url name key) = .http host target ∧
    cluster.hosts[host]? = some (.node node) ∧
    Request.ofTarget "GET" target = PeerRoutes.requestFor basePath name key

variable {cluster : Cluster} {node group : Nat} {member : ClusterNode} {hosted : Hosted}
  {getter : Getter} {name key : String} {load : String → Except String Bytes}
  {keeps : String → Prop} {call : Nat}

/-! ## Groups that serve -/

/-- A group that goes on goes on serving, if what is added is what the loader gives for a key that
it may keep. -/
private theorem Serves.continues (serves : Serves name load keeps hosted) {next : Group}
    {added : String → Bytes → Prop} (continues : Group.Continues hosted.group next added)
    (kept : ∀ key value, added key value → load key = .ok value ∧ keeps key) (loads : Nat) :
    Serves name load keeps { hosted with group := next, loads } where
  named := continues.name.trans serves.named
  picks := continues.hasPeers.trans serves.picks
  loads := serves.loads
  returns := serves.returns
  stored key value held :=
    (continues.stored key value held).elim (serves.stored key value) (kept key value)

private theorem Rests.recordRequest (rests : Rests name load keeps hosted) :
    Rests name load keeps { hosted with group := hosted.group.recordRequest } where
  named := rests.named
  picks := rests.picks
  loads := rests.loads
  returns := rests.returns
  stored := rests.stored
  quiet := rests.quiet.count _

theorem answer_of_nonempty (nonempty : key ≠ "") : answer load key = (load key).mapError .loader :=
  if_neg nonempty

private theorem toOption_answer (nonempty : key ≠ "") :
    (answer load key).toOption = (load key).toOption := by
  rw [answer_of_nonempty nonempty]
  cases load key <;> rfl

private theorem wires_append (first second : List ClusterNote) :
    wires (first ++ second) = wires first ++ wires second :=
  List.filter_append first second

private theorem wires_of_load (base key : String) (isLogged : Bool) (departures : List Departure) :
    wires ((if isLogged then [.load base key] else []) ++
      departures.map (ClusterNote.evict base)) = [] := by
  cases isLogged <;> simp [wires, ClusterNote.isWire]

/-! ## Gets that are kept -/

private theorem loadAt_of_occupied (houses : cluster.Houses node group member hosted)
    (serves : Serves name load keeps hosted) (occupied : hosted.group.Occupied call (.load key))
    (kept : ∀ value, load key = .ok value → keeps key) :
    ∃ next notes, cluster.loadAt node group call key =
        .ok ((load key).mapError .loader, (cluster.note notes).place node group next) ∧
      Rests name load keeps next ∧ wires notes = [] := by
  obtain ⟨departures, next, loaded, continues, quiet⟩ := occupied.loaded (load key)
  have serves' := serves.continues continues
    (by rintro _ value ⟨rfl, gives⟩; exact ⟨gives, kept value gives⟩) (hosted.loads + 1)
  refine ⟨_, _, ?_, ⟨serves', quiet⟩, wires_of_load member.base key hosted.isLogged
    (hosted.group.plan.reported departures)⟩
  rw [← (houses.note _).modifyHosted fun other =>
    { other with group := next, loads := hosted.loads + 1 }]
  simp only [loadAt, houses.found, houses.hosted?, serves.returns, serves.loads, loaded]
  rfl

/-- A get that a peer was asked for comes to what the loader gives, if the peer answered with that,
or with no value where the loader gives none. -/
private theorem answerAt_of_occupied (houses : cluster.Houses node group member hosted)
    (serves : Serves name load keeps hosted)
    (occupied : hosted.group.Occupied call (.fetch peer name key)) {result : GetResult}
    (agrees : result.toOption = (load key).toOption) :
    ∃ next notes, cluster.answerAt node group call result =
        .ok ((load key).mapError .loader, (cluster.note notes).place node group next) ∧
      Rests name load keeps next ∧ wires notes = [] := by
  cases gives : load key with
  | ok value =>
    obtain rfl : result = .ok value := by
      cases result <;> simp_all [Except.toOption]
    obtain ⟨next, fetched, continues, quiet⟩ := occupied.fetched value
    have serves' := serves.continues continues (fun _ _ => False.elim) hosted.loads
    refine ⟨_, [], ?_, ⟨serves', quiet⟩, rfl⟩
    rw [note_nil, ← houses.modifyHosted fun other => { other with group := next }]
    simp only [answerAt, houses.hosted?, fetched]
    rfl
  | error text =>
    obtain ⟨cause, rfl⟩ : ∃ cause, result = .error cause := by
      cases result <;> simp_all [Except.toOption]
    obtain ⟨next, turned, continues, occupied'⟩ := occupied.turns cause
    have serves' := serves.continues continues (fun _ _ => False.elim) hosted.loads
    obtain ⟨final, notes, loaded, rests, silent⟩ := loadAt_of_occupied
      (houses.place { hosted with group := next }) serves' occupied' (by simp [gives])
    rw [gives, place_note, place_place,
      ← houses.modifyHosted fun other => { other with group := next }] at loaded
    refine ⟨final, notes, ?_, rests, silent⟩
    simp only [answerAt, houses.hosted?, turned]
    exact loaded

/-- Bring a get what it asked for. -/
def pursue (remote : GetAt) (cluster : Cluster) (node group : Nat) :
    Group.Request → Checked (GetResult × Cluster)
  | .load key => cluster.loadAt node group 1 key
  | .fetch peer name key => do
    let (result, cluster) ← fetch remote cluster ⟨peer⟩ name key
    cluster.answerAt node group 1 result

/-- A get at a group at rest comes at once to what the loader gives, or is brought what it asks
for. -/
theorem getVia_opens (houses : cluster.Houses node group member hosted)
    (rests : Rests name load keeps hosted) (key : String) (remote : GetAt) :
    (∃ next, getVia remote cluster node group key =
        .ok (answer load key, cluster.place node group next) ∧ Rests name load keeps next) ∨
      key ≠ "" ∧ ∃ next, Serves name load keeps next ∧
        next.group.Occupied 1 (.first name (member.pool.pick key) key) ∧
        getVia remote cluster node group key = pursue remote (cluster.place node group next) node
          group (.first name (member.pool.pick key) key) := by
  obtain ⟨next, progress, polled, continues, opens⟩ :=
    rests.quiet.opens 1 key (member.pool.pick key)
  have serves := rests.continues continues (fun _ _ => False.elim) hosted.loads
  have placed := houses.modifyHosted fun other => { other with group := next }
  have first : hosted.group.liveCalls.foldl max 0 + 1 = 1 := by rw [rests.quiet.liveCalls]; rfl
  cases opens with
  | rejects empty quiet =>
    refine .inl ⟨_, ?_, serves, quiet⟩
    simp only [getVia, houses.found, houses.hosted?, first, polled]
    rw [← placed, answer, if_pos empty]
    rfl
  | hits nonempty value stored quiet =>
    refine .inl ⟨_, ?_, serves, quiet⟩
    simp only [getVia, houses.found, houses.hosted?, first, polled]
    rw [← placed, answer_of_nonempty nonempty, (rests.stored key value stored).1]
    rfl
  | misses nonempty occupied =>
    rw [Group.opening, if_pos rests.picks, rests.named] at occupied polled
    refine .inr ⟨nonempty, _, serves, occupied, ?_⟩
    simp only [getVia, houses.found, houses.hosted?, first, polled]
    rw [← placed]
    cases member.pool.pick key <;> rfl

/-- A get that the pool of its node keeps comes to what the loader gives, and sends no request. -/
theorem getVia_of_kept (houses : cluster.Houses node group member hosted)
    (rests : Rests name load keeps hosted) (own : member.pool.pick key = none) (kept : keeps key)
    (remote : GetAt) :
    ∃ next notes, getVia remote cluster node group key =
        .ok (answer load key, (cluster.note notes).place node group next) ∧
      Rests name load keeps next ∧ wires notes = [] := by
  rcases getVia_opens houses rests key remote with
    ⟨next, got, rests'⟩ | ⟨nonempty, next, serves, occupied, got⟩
  · exact ⟨next, [], by rw [note_nil, got], rests', rfl⟩
  · rw [own] at occupied got
    obtain ⟨final, notes, loaded, rests', silent⟩ :=
      loadAt_of_occupied (houses.place next) serves occupied fun _ _ => kept
    rw [place_note, place_place, ← answer_of_nonempty nonempty] at loaded
    exact ⟨final, notes, got.trans loaded, rests', silent⟩

/-! ## Requests from other nodes -/

/-- The requests of a getter reach a node unchanged if its host and the base path are plain. -/
theorem delivers_of_plain {host basePath : String} (known : Url.isPlainHost host.toList = true)
    (plain : Url.isPlainPath basePath.toList = true)
    (answers : cluster.hosts[host]? = some (.node node)) (name key : String) :
    cluster.Delivers ⟨"http://" ++ host ++ basePath⟩ node basePath name key := by
  have segments : Url.isPlainPath
      (basePath ++ Segment.encode name ++ "/" ++ Segment.encode key).toList = true := by
    rw [String.append_assoc, String.append_assoc, String.toList_append]
    refine Url.isPlainPath_append plain fun char member => ?_
    simp only [String.toList_append, List.mem_append] at member
    rcases member with written | slash | written
    · exact .inl (Segment.isWritten_of_mem_encode written)
    · exact .inr (by simpa using slash)
    · exact .inl (Segment.isWritten_of_mem_encode written)
  refine ⟨host, _, ?_, answers, Request.ofTarget_plain segments "GET"⟩
  rw [← Url.parse_plain known segments]
  simp only [Getter.url, String.append_assoc]

theorem serve_of_kept (houses : cluster.Houses node group member hosted)
    (registered : member.registry.get? name = some group) (rests : Rests name load keeps hosted)
    (own : member.pool.pick key = none) (kept : keeps key) (remote : GetAt) :
    ∃ next notes, serve (getVia remote) cluster node
          (PeerRoutes.requestFor member.pool.options.basePath name key) =
        .ok (PeerRoutes.respond (answer load key), (cluster.note notes).place node group next) ∧
      Rests name load keeps next ∧ wires notes = [] := by
  have counted := houses.modifyHosted fun other =>
    { other with group := other.group.recordRequest }
  obtain ⟨next, notes, got, rests', silent⟩ := getVia_of_kept
    (houses.place { hosted with group := hosted.group.recordRequest }) rests.recordRequest own kept
    remote
  rw [place_note, place_place, ← counted] at got
  refine ⟨next, notes, ?_, rests', silent⟩
  simp only [serve, houses.found, PeerRoutes.requestFor, PeerRoutes.dispatch_encode, registered,
    got, bind, Except.bind]
  rfl

private theorem toOption_taken (getter : Getter) (result : GetResult) :
    (getter.taken (PeerRoutes.respond result)).toOption = result.toOption := by
  cases result with
  | ok value =>
    simp [Getter.taken, PeerRoutes.respond, Response.value, Response.contentLength, Getter.received]
  | error cause =>
    cases cause <;> simp [Getter.taken, PeerRoutes.respond, Response.text, Getter.received,
      Getter.unavailable, Except.toOption]

/-- A getter that asks the node which keeps a key gets what the loader gives there, for a single
request. -/
theorem fetch_of_kept (connected : cluster.network = .connected)
    (delivers : cluster.Delivers getter node member.pool.options.basePath name key)
    (houses : cluster.Houses node group member hosted)
    (registered : member.registry.get? name = some group) (rests : Rests name load keeps hosted)
    (own : member.pool.pick key = none) (kept : keeps key) (remote : GetAt) :
    ∃ result next notes, fetch (getVia remote) cluster getter name key =
        .ok (result, (cluster.note notes).place node group next) ∧
      result.toOption = (answer load key).toOption ∧ Rests name load keeps next ∧
      wires notes = [.wire "GET" (getter.url name key)] := by
  obtain ⟨host, target, parsed, answers, unchanged⟩ := delivers
  obtain ⟨next, notes, served, rests', silent⟩ :=
    serve_of_kept (houses.note [.wire "GET" (getter.url name key)]) registered rests own kept remote
  rw [note_note] at served
  refine ⟨_, next, [.wire "GET" (getter.url name key)] ++ notes, ?_, toOption_taken getter _,
    rests', by rw [wires_append, silent]; rfl⟩
  have answers : (cluster.note [.wire "GET" (getter.url name key)]).hosts[host]? =
      some (.node node) := answers
  simp only [fetch, fetchThrough, parsed, connected, answers, unchanged, served, bind, Except.bind]
  rfl

/-- A get that is sent on to the node which keeps the key comes to what the loader gives, for at
most one request. -/
theorem getVia_of_sent (getter : Getter) {asker asked first second : Nat}
    {one other : ClusterNode} {hosting hosted : Hosted} {stores : String → Prop}
    (connected : cluster.network = .connected) (distinct : asker ≠ asked)
    (here : cluster.Houses asker first one hosting)
    (there : cluster.Houses asked second other hosted)
    (registered : other.registry.get? name = some second) (rests : Rests name load stores hosting)
    (rests' : Rests name load keeps hosted) (picked : one.pool.pick key = some getter.baseUrl)
    (own : other.pool.pick key = none) (kept : keeps key)
    (delivers : cluster.Delivers getter asked other.pool.options.basePath name key)
    (remote : GetAt) :
    ∃ next next' notes, getVia (getVia remote) cluster asker first key =
        .ok (answer load key,
          ((cluster.note notes).place asked second next').place asker first next) ∧
      Rests name load stores next ∧ Rests name load keeps next' ∧
      (wires notes = [] ∨ wires notes = [.wire "GET" (getter.url name key)]) := by
  rcases getVia_opens here rests key (getVia remote) with
    ⟨next, got, rests⟩ | ⟨nonempty, next, serves, occupied, got⟩
  · exact ⟨next, hosted, [], by rw [note_nil, there.place_self, got], rests, rests', .inl rfl⟩
  · rw [picked] at occupied got
    have connected' : (cluster.place asker first next).network = .connected := connected
    obtain ⟨result, next', notes, fetched, agrees, rests', single⟩ := fetch_of_kept connected'
      delivers (there.place_other distinct _) registered rests' own kept remote
    -- the asking get has stood where it was while the other node answered
    have waiting : (((cluster.place asker first next).note notes).place asked second next').Houses
        asker first _ next := ((here.place next).note notes).place_other distinct.symm next'
    obtain ⟨final, later, answered, rests, silent⟩ := answerAt_of_occupied waiting serves occupied
      (agrees.trans (toOption_answer nonempty))
    have settled : ((((cluster.place asker first next).note notes).place asked second next').note
        later).place asker first final =
          ((cluster.note (notes ++ later)).place asked second next').place asker first final := by
      rw [place_note, place_note, place_note, note_note, place_comm _ distinct, place_place]
    rw [settled, ← answer_of_nonempty nonempty] at answered
    refine ⟨final, next', notes ++ later, ?_, rests, rests', .inr ?_⟩
    · rw [got, Group.Request.first, pursue, fetched]
      exact answered
    · rw [wires_append, single, silent, List.append_nil]

end Cluster

end PeerCache
