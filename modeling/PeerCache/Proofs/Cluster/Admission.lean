import PeerCache.Proofs.Cluster.Reachable
import PeerCache.Proofs.Http.Grammar

/-! # What a peer server lets in

A request that is in the grammar of a server, for a group that the server knows, is counted by this
group together with the get that it begins. Whatever else happens meanwhile, the get is not counted
again, and the answer is made of what it comes to. Any other request is answered for the first thing
that is wrong with it and leaves everything as it was.
-/

namespace PeerCache

/-- The group and the key that a request is for at the server of a node. -/
abbrev ClusterNode.dispatch (member : ClusterNode) (request : Request) :
    Except PeerRoutes.Refusal (Nat × String) :=
  PeerRoutes.dispatch member.pool.options.basePath member.registry.get? request

/-- What the server of a node answers to a request that it does not take. -/
abbrev ClusterNode.Refuses (member : ClusterNode) (request : Request) (response : Response) :
    Prop :=
  PeerRoutes.Refused member.pool.options.basePath member.registry.get? request response

namespace Cluster

/-- What is answered for a get of a key that came to a result, by a server that has this status for
the empty key. -/
inductive Answers (rejected : Nat) (key : String) : GetResult → Response → Prop
  | value (nonempty : key ≠ "") (value : Bytes) : Answers rejected key (.ok value)
      { status := 200, contentType := "application/octet-stream", body := value }
  | rejects (empty : key = "") :
      Answers rejected key (.error .invalidKey) (.text rejected "key is required")
  | failed (nonempty : key ≠ "") (text : String) :
      Answers rejected key (.error (.loader text)) (.text 500 text)

/-- A way of responding to whatever a get can come to. -/
def Responds (rejected : Nat) (respond : GetResult → Response) : Prop :=
  ∀ key result, Group.Results key result → ∀ response,
    Answers rejected key result response ↔ response = respond result

/-- A get of a key that is under way in a group, if there is one of this number, goes on without a
fault and without being counted, and what it comes to can be responded to. -/
def GoesOn (rejected : Nat) (respond : GetResult → Response) (cluster : Cluster)
    (node group call : Nat) (key : String) : Prop :=
  ∀ member hosted, cluster.Houses node group member hosted →
    hosted.group.flight.key? call = some key → ∀ action : Group.Action, action.get? = some call →
    ∃ outcome, hosted.group.step action = .ok outcome ∧ hosted.group.Counts outcome.group 0 0 ∧
      ∀ result, outcome.progress = some (.finished result) →
        Answers rejected key result (respond result)

/-- Nobody is asked for a key, or a peer is. -/
def Consults (remote : GetAt) (name key : String) (before after : Cluster) : Prop :=
  after = before ∨ ∃ peer given, fetch remote before ⟨peer⟩ name key = .ok (given, after)

/-- Something is logged, and one group goes on, which counts neither a get nor a request. -/
def Settles (node group : Nat) (before after : Cluster) : Prop :=
  ∃ member hosted next notes, before.Houses node group member hosted ∧
    after = (before.note notes).place node group next ∧ hosted.group.Counts next.group 0 0

/-- A group can tell by itself what a get of a key comes to: the key is empty, or it is stored, or
the loader is asked right away and returns. -/
def Tells (member : ClusterNode) (hosted : Hosted) (key : String) : Prop :=
  key = "" ∨ (∃ value, hosted.group.peek key = some value) ∨
    hosted.returns = true ∧ (hosted.group.hasPeers = true → member.pool.pick key = none) ∧
      ∀ leader, ¬ hosted.group.flight.Leads leader key

/-- What it means for a request that a server has dispatched to a group that it is one visit. -/
structure Visit (cluster : Cluster) (node group : Nat) (member : ClusterNode) (hosted : Hosted)
    (key : String) (request : Request) : Prop where
  /-- Once its get is begun, under any number that is free, the group has counted the request and
  the get. The get has ended then, or it is under way and goes on in whatever comes about. -/
  begins : ∀ call, hosted.group.isLive call = false → ∃ begun progress,
    (hosted.group.recordRequest.call call key).poll call (member.pool.pick key) =
        .ok (begun, progress) ∧
      hosted.group.Counts begun 1 1 ∧
      hosted.group.recordRequest.Enters call key (member.pool.pick key) begun progress ∧
      (∀ result, progress = .finished result →
        Answers 400 key result (PeerRoutes.respond result)) ∧
      ∀ later, (cluster.place node group { hosted with group := begun }).Becomes later →
        GoesOn 400 PeerRoutes.respond later node group call key
  /-- There is an answer if the get comes to its end, and it is made of what the get comes to. -/
  ends : ∀ remote response after,
    serve (getVia remote) cluster node request = .ok (response, after) ↔
      ∃ result,
        getVia remote (cluster.place node group { hosted with group := hosted.group.recordRequest })
          node group key = .ok (result, after) ∧ Answers 400 key result response
  /-- Up to its end the get is begun, a peer may be asked, and the group settles what it has
  begun. -/
  settles : ∀ remote result after,
    getVia remote (cluster.place node group { hosted with group := hosted.group.recordRequest })
      node group key = .ok (result, after) →
    ∃ begun progress between,
      (hosted.group.recordRequest.call hosted.group.nextCall key).poll hosted.group.nextCall
        (member.pool.pick key) = .ok (begun, progress) ∧
      hosted.group.Counts begun 1 1 ∧
      Consults remote hosted.group.name key
        (cluster.place node group { hosted with group := begun }) between ∧
      Settles node group between after
  /-- It has an end if the group can tell what the get comes to. -/
  told : Tells member hosted key →
    ∀ remote, ∃ response after, serve (getVia remote) cluster node request = .ok (response, after)

/-- What it means for the server of a node that it takes a request if it is in its grammar, and is
not touched otherwise. -/
structure Admission (cluster : Cluster) (node : Nat) (member : ClusterNode) (request : Request) :
    Prop where
  /-- A request is dispatched if it is a `GET` whose path names a group that is registered. -/
  dispatched : ∀ group key, member.dispatch request = .ok (group, key) ↔
    request.method = "GET" ∧
      ∃ name, PeerRoutes.Names member.pool.options.basePath request.path name key ∧
        member.registry.get? name = some group
  /-- Any other is refused. -/
  covered : (∃ group key, member.dispatch request = .ok (group, key)) ∨
    ∃ response, member.Refuses request response
  /-- A refused request is answered for the first thing that is wrong with it, and nothing has
  changed. -/
  refused : ∀ response, member.Refuses request response →
    ∀ get, serve get cluster node request = .ok (response, cluster)
  /-- A dispatched request is one visit to the group that the path names. -/
  visits : ∀ group key, member.dispatch request = .ok (group, key) →
    ∃ hosted, cluster.Houses node group member hosted ∧
      PeerRoutes.Names member.pool.options.basePath request.path hosted.group.name key ∧
      Visit cluster node group member hosted key request
  /-- The gets of the cluster itself are run in this way. -/
  runs : ∃ remote, serve get cluster node request = serve (getVia remote) cluster node request
  /-- What a request leaves behind has come about. -/
  leaves : ∀ response after,
    serve get cluster node request = .ok (response, after) → after.Reachable

section

variable {cluster between after : Cluster} {node group : Nat} {member : ClusterNode}
  {hosted : Hosted} {request : Request} {response : Response} {key : String} {call : Nat}
  {get remote : GetAt} {result : GetResult} {rejected : Nat} {respond : GetResult → Response}

/-! ## Answers -/

theorem responds_of_eq
    (value : ∀ value : Bytes, respond (.ok value) =
      { status := 200, contentType := "application/octet-stream", body := value })
    (rejects : respond (.error .invalidKey) = .text rejected "key is required")
    (failed : ∀ text, respond (.error (.loader text)) = .text 500 text) :
    Responds rejected respond := by
  rintro key result results response
  constructor
  · intro answers
    cases answers with
    | value => exact (value _).symm
    | rejects => exact rejects.symm
    | failed => exact (failed _).symm
  · rintro rfl
    cases results with
    | value nonempty found =>
      rw [value]
      exact .value nonempty found
    | rejected empty =>
      rw [rejects]
      exact .rejects empty
    | failed nonempty text =>
      rw [failed]
      exact .failed nonempty text

private theorem responds_peerRoutes : Responds 400 PeerRoutes.respond :=
  responds_of_eq (fun _ => rfl) rfl fun _ => rfl

theorem Responds.answers (responds : Responds rejected respond)
    (results : Group.Results key result) : Answers rejected key result (respond result) :=
  (responds key result results _).mpr rfl

private theorem serve_of_refused (found : cluster.nodes[node]? = some member)
    (refused : member.Refuses request response) (get : GetAt) :
    serve get cluster node request = .ok (response, cluster) := by
  obtain ⟨refusal, refuses, rfl⟩ := PeerRoutes.refused_iff.mp refused
  simp only [serve, found, refuses]

private theorem serve_of_dispatched (houses : cluster.Houses node group member hosted)
    (dispatched : member.dispatch request = .ok (group, key)) (get : GetAt) :
    serve get cluster node request = do
      let (result, after) ←
        get (cluster.place node group { hosted with group := hosted.group.recordRequest }) node
          group key
      return (PeerRoutes.respond result, after) := by
  simp only [serve, houses.found, dispatched, houses.modifyHosted]

/-! ## Gets that are under way -/

theorem Responds.goesOn (responds : Responds rejected respond) (reachable : cluster.Reachable)
    (node group call : Nat) (key : String) :
    GoesOn rejected respond cluster node group call key := by
  intro member hosted houses known action about
  have fair := reachable.regular.fair node group member hosted houses
  obtain ⟨outcome, stepped, -⟩ := Group.advances_of_step fair.toSound action
  refine ⟨outcome, stepped, ?_, fun result finished => responds.answers ?_⟩
  · have again : hosted.group.isFirst action = false := by
      cases action <;> simp only [Group.isFirst]
      case poll other owner =>
        obtain rfl : other = call := Option.some.inj about
        by_contra first
        have absent := fair.apart other (by simpa [← Option.isSome_iff_ne_none] using first)
        simp [Flight.key?, absent] at known
    simpa [again] using Group.counts_of_step fair.toSound stepped
  · obtain ⟨other, key', about', known', results⟩ := fair.finished stepped finished
    obtain rfl : call = other := Option.some.inj (about.symm.trans about')
    rw [fair.keyOf?_of_flying known] at known'
    obtain rfl := Option.some.inj known'
    exact results

/-- A get that a group is asked for has ended with its first poll, or it goes on from there. -/
theorem Responds.begins (responds : Responds rejected respond) (reachable : cluster.Reachable)
    (houses : cluster.Houses node group member hosted) (free : hosted.group.isLive call = false)
    (key : String) :
    ∃ begun progress,
      (hosted.group.call call key).poll call (member.pool.pick key) = .ok (begun, progress) ∧
        hosted.group.Counts begun 1 0 ∧
        hosted.group.Enters call key (member.pool.pick key) begun progress ∧
        (∀ result, progress = .finished result → Answers rejected key result (respond result)) ∧
        ∀ later, (cluster.place node group { hosted with group := begun }).Becomes later →
          GoesOn rejected respond later node group call key := by
  have fair := reachable.regular.fair node group member hosted houses
  obtain ⟨begun, progress, polled, -, counts, enters⟩ := fair.opens free key (member.pool.pick key)
  have became := (Becomes.refl cluster).polls houses polled
  refine ⟨begun, progress, polled, counts, enters, ?_, ?_⟩
  · rintro result rfl
    cases enters with
    | ends _ results => exact responds.answers results
  · intro later becomes
    exact responds.goesOn (reachable.becomes (became.trans becomes)) node group call key

/-! ## Gets that end -/

private theorem settles_refl (houses : cluster.Houses node group member hosted) :
    Settles node group cluster cluster :=
  ⟨member, hosted, hosted, [], houses, by rw [note_nil, houses.place_self], rfl, rfl⟩

private theorem Settles.of_place {held : Hosted} (houses : cluster.Houses node group member hosted)
    (counts : hosted.group.Counts held.group 0 0)
    (settles : Settles node group (cluster.place node group held) after) :
    Settles node group cluster after := by
  obtain ⟨one, other, next, notes, houses', rfl, counts'⟩ := settles
  obtain rfl := (houses.place held).unique houses'
  exact ⟨member, hosted, next, notes, houses, by rw [place_note, place_place],
    counts.trans counts'⟩

private theorem settles_of_loadAt (nonempty : key ≠ "") {wanted : String}
    (ran : cluster.loadAt node group call wanted = .ok (result, after)) :
    Settles node group cluster after ∧ Group.Results key result := by
  obtain ⟨member, hosted, departures, next, notes, houses, -, loaded, rfl⟩ := loadAt_eq_ok ran
  have counts := Group.counts_of_loaded (Group.step_of_loaded loaded)
  exact ⟨⟨member, hosted, _, notes, houses, rfl, counts⟩, Group.results_of_loaded nonempty loaded⟩

private theorem settles_of_answerAt (nonempty : key ≠ "") {given : GetResult}
    (ran : cluster.answerAt node group call given = .ok (result, after)) :
    Settles node group cluster after ∧ Group.Results key result := by
  obtain ⟨member, hosted, next, progress, houses, fetched, ended⟩ := answerAt_eq_ok ran
  have counts := Group.counts_of_fetched (Group.step_of_fetched fetched)
  rcases ended with ⟨rfl, rfl⟩ | ⟨wanted, -, loads⟩
  · exact ⟨(settles_refl (houses.place _)).of_place houses counts,
      Group.results_of_fetched nonempty fetched⟩
  · obtain ⟨settles, results⟩ := settles_of_loadAt nonempty loads
    exact ⟨settles.of_place houses counts, results⟩

/-- A get that comes to its end has begun, consulted others and settled in its group. -/
private theorem settles_of_getVia (reachable : cluster.Reachable)
    (houses : cluster.Houses node group member hosted)
    (ran : getVia remote cluster node group key = .ok (result, after)) :
    ∃ begun progress between,
      (hosted.group.call hosted.group.nextCall key).poll hosted.group.nextCall
          (member.pool.pick key) = .ok (begun, progress) ∧
        hosted.group.Counts begun 1 0 ∧
        Consults remote hosted.group.name key
          (cluster.place node group { hosted with group := begun }) between ∧
        Settles node group between after ∧ Group.Results key result := by
  have fair := reachable.regular.fair node group member hosted houses
  obtain ⟨begun, progress, polled, -, counts, enters⟩ :=
    fair.opens (Group.isLive_next hosted.group) key (member.pool.pick key)
  obtain ⟨one, held, next, progress', houses', polled', ended⟩ := getVia_eq_ok ran
  obtain rfl := houses.unique houses'
  obtain rfl := Option.some.inj (houses.found.symm.trans houses'.found)
  obtain ⟨rfl, rfl⟩ : begun = next ∧ progress = progress' := by
    simpa using polled.symm.trans polled'
  rcases ended with
    ⟨rfl, rfl⟩ | ⟨wanted, rfl, loads⟩ | ⟨peer, name, wanted, given, between, rfl, fetched, answers⟩
  · cases enters with
    | ends _ results =>
      exact ⟨_, _, _, polled, counts, .inl rfl, settles_refl (houses.place _), results⟩
  · exact ⟨_, _, _, polled, counts, .inl rfl, settles_of_loadAt enters.asked.1 loads⟩
  · obtain ⟨nonempty, -, opens, -⟩ := enters.asked
    obtain rfl : wanted = key := by
      rw [← Group.key_opening hosted.group key (member.pool.pick key), ← opens]
      rfl
    have under := Group.isUnder_opening hosted.group wanted (member.pool.pick wanted)
    rw [← opens] at under
    obtain rfl : name = hosted.group.name := under
    exact ⟨_, _, between, polled, counts, .inr ⟨peer, given, fetched⟩,
      settles_of_answerAt nonempty answers⟩

theorem results_of_getVia (reachable : cluster.Reachable)
    (houses : cluster.Houses node group member hosted)
    (ran : getVia remote cluster node group key = .ok (result, after)) :
    Group.Results key result := by
  obtain ⟨-, -, -, -, -, -, -, results⟩ := settles_of_getVia reachable houses ran
  exact results

private theorem exists_loadAt (houses : cluster.Houses node group member hosted)
    (sound : hosted.group.Sound) (returns : hosted.returns = true)
    (errand : hosted.group.errands[call]? = some (.load key)) :
    ∃ result after, cluster.loadAt node group call key = .ok (result, after) := by
  obtain ⟨departures, next, result, loaded⟩ :=
    Group.exists_of_loads sound errand (hosted.load (hosted.loads + 1) key)
  simp only [loadAt, houses.found, houses.hosted?, returns, loaded]
  exact ⟨_, _, rfl⟩

private theorem opening_of_own (own : hosted.group.hasPeers = true → member.pool.pick key = none) :
    hosted.group.opening key (member.pool.pick key) = .load key := by
  have nobody : (if hosted.group.hasPeers then member.pool.pick key else none) = none := by
    split
    · next picks => exact own picks
    · rfl
  rw [Group.opening, nobody]
  rfl

/-- A get comes to its end if its group can tell what it comes to. -/
theorem exists_getVia (reachable : cluster.Reachable)
    (houses : cluster.Houses node group member hosted) (tells : Tells member hosted key)
    (remote : GetAt) :
    ∃ result after, getVia remote cluster node group key = .ok (result, after) := by
  have fair := reachable.regular.fair node group member hosted houses
  obtain ⟨begun, progress, polled, fair', -, enters⟩ :=
    fair.opens (Group.isLive_next hosted.group) key (member.pool.pick key)
  unfold Group.nextCall at polled
  simp only [getVia, houses.found, houses.hosted?, polled, houses.modifyHosted, bind, Except.bind]
  cases enters with
  | ends result => exact ⟨_, _, rfl⟩
  | waits nonempty missing leader leads =>
    rcases tells with empty | ⟨value, stored⟩ | ⟨-, -, idle⟩
    · exact absurd empty nonempty
    · cases missing.symm.trans stored
    · exact absurd leads (idle leader)
  | asks nonempty missing errand =>
    rcases tells with empty | ⟨value, stored⟩ | ⟨returns, own, -⟩
    · exact absurd empty nonempty
    · cases missing.symm.trans stored
    · rw [opening_of_own own] at errand ⊢
      exact exists_loadAt (houses.place _) fair'.toSound returns errand

end

/-! ## Visits -/

section

variable {cluster : Cluster} {node group : Nat} {member : ClusterNode} {hosted : Hosted}
  {request : Request} {key : String} {call : Nat}

private theorem Reachable.counts (reachable : cluster.Reachable)
    (houses : cluster.Houses node group member hosted) :
    (cluster.place node group { hosted with group := hosted.group.recordRequest }).Reachable :=
  reachable.becomes (.single (.counts node group member hosted houses))

private theorem counts_recordRequest (group : Group) : group.Counts group.recordRequest 0 1 :=
  ⟨rfl, rfl⟩

private theorem visit_of_dispatched (reachable : cluster.Reachable)
    (houses : cluster.Houses node group member hosted)
    (dispatched : member.dispatch request = .ok (group, key)) :
    Visit cluster node group member hosted key request where
  begins := by
    intro call free
    obtain ⟨begun, progress, polled, counts, enters, ended, goesOn⟩ :=
      responds_peerRoutes.begins (reachable.counts houses) (houses.place _) free key
    rw [place_place] at goesOn
    exact ⟨begun, progress, polled, (counts_recordRequest _).trans counts, enters, ended, goesOn⟩
  ends := by
    intro remote response after
    rw [serve_of_dispatched houses dispatched, returned_iff PeerRoutes.respond]
    refine exists_congr fun result => and_congr_right fun got => ?_
    have results := results_of_getVia (reachable.counts houses) (houses.place _) got
    exact (responds_peerRoutes key result results response).symm
  settles := by
    intro remote result after got
    obtain ⟨begun, progress, between, polled, counts, consults, settles, -⟩ :=
      settles_of_getVia (reachable.counts houses) (houses.place _) got
    rw [place_place] at consults
    exact ⟨begun, progress, between, polled, (counts_recordRequest _).trans counts, consults,
      settles⟩
  told := by
    intro tells remote
    have counted := houses.place { hosted with group := hosted.group.recordRequest }
    obtain ⟨result, after, got⟩ := exists_getVia (reachable.counts houses) counted tells remote
    rw [serve_of_dispatched houses dispatched, got]
    exact ⟨_, _, rfl⟩

/-- The server of a node takes what is in its grammar, and is not touched otherwise. -/
theorem admission (reachable : cluster.Reachable) (found : cluster.nodes[node]? = some member)
    (request : Request) : Admission cluster node member request where
  dispatched _ _ := PeerRoutes.dispatch_eq_ok_iff
  covered := by
    cases taken : member.dispatch request with
    | ok target => exact .inl ⟨target.1, target.2, rfl⟩
    | error refusal => exact .inr ⟨_, PeerRoutes.refused_iff.mpr ⟨refusal, taken, rfl⟩⟩
  refused _ := serve_of_refused found
  visits := by
    intro group key dispatched
    obtain ⟨-, name, names, known⟩ := PeerRoutes.dispatch_eq_ok_iff.mp dispatched
    obtain ⟨hosted, housed, rfl⟩ := reachable.regular.registered node member name group found known
    exact ⟨hosted, ⟨found, housed⟩, names, visit_of_dispatched reachable ⟨found, housed⟩ dispatched⟩
  runs := by
    cases taken : member.dispatch request with
    | error refusal =>
      have refused := PeerRoutes.refused_iff.mpr ⟨refusal, taken, rfl⟩
      exact ⟨get, by rw [serve_of_refused found refused, serve_of_refused found refused]⟩
    | ok target =>
      obtain ⟨group, key⟩ := target
      obtain ⟨-, name, -, known⟩ := PeerRoutes.dispatch_eq_ok_iff.mp taken
      obtain ⟨hosted, housed, -⟩ := reachable.regular.registered node member name group found known
      refine ⟨getWithin (cluster.place node group
        { hosted with group := hosted.group.recordRequest }).groupCount, ?_⟩
      rw [serve_of_dispatched ⟨found, housed⟩ taken, serve_of_dispatched ⟨found, housed⟩ taken]
      rfl
  leaves _ _ served := reachable.becomes (develops_get.serve served)

end

/-- A node that is alone with its group of scores. -/
def scoreboard : Cluster :=
  ((empty .connected).add (.create "http://localhost:8001" {})).modifyNode 0 (·.add scores)

theorem reachable_scoreboard : scoreboard.Reachable :=
  ⟨.connected, ((Becomes.refl _).tail (.joins "http://localhost:8001" {})).tail
    (.builds 0 scores "scores" {} rfl)⟩

/-- The node takes a request or leaves it, and this one is for the key that a tilde stands for. -/
theorem admission_scoreboard : scoreboard.Reachable ∧
    scoreboard.nodes[0]? = some ((ClusterNode.create "http://localhost:8001" {}).add scores) ∧
    Admission scoreboard 0 ((ClusterNode.create "http://localhost:8001" {}).add scores)
      ⟨"GET", "/_hint/scores/%7E", ""⟩ :=
  ⟨reachable_scoreboard, rfl, admission reachable_scoreboard rfl _⟩

/-- What is left of the key when the tilde is stripped is empty. -/
example : ((ClusterNode.create "http://localhost:8001" {}).add scores).dispatch
    ⟨"GET", "/_hint/scores/%7E", ""⟩ = .ok (0, "") := by
  decide +kernel

end Cluster

end PeerCache
