import PeerCache.Proofs.Cluster.Placement

/-! # How exchanges end

An exchange that comes to its end has found the group that it is about, and each step of it has
answered. What that says of a request, of a fetch, of a get, and of the two ways in which a get is
brought what it asks for, is said here once, so that nobody else has to take exchanges apart.
-/

namespace PeerCache

/-- The number of a get that is run to its end. No get that is under way has it. -/
def Group.nextCall (group : Group) : Nat := group.liveCalls.foldl max 0 + 1

namespace Cluster

variable {cluster next : Cluster} {node group call : Nat} {key : String} {result : GetResult}

/-- A get that turns to the loader ends with what the loader gives, if it returns. -/
theorem loadAt_eq_ok (ran : cluster.loadAt node group call key = .ok (result, next)) :
    ∃ member hosted departures after notes, cluster.Houses node group member hosted ∧
      hosted.returns = true ∧
      hosted.group.loaded call (hosted.load (hosted.loads + 1) key) =
        .ok (departures, after, .finished result) ∧
      next = (cluster.note notes).place node group
        { hosted with group := after, loads := hosted.loads + 1 } := by
  unfold loadAt at ran
  split at ran
  case h_2 => cases ran
  case h_1 member hosted found placed =>
    have houses : cluster.Houses node group member hosted :=
      ⟨found, by rwa [Cluster.hosted?, found, Option.bind_some] at placed⟩
    split at ran
    case isTrue => cases ran
    case isFalse returns =>
      obtain ⟨⟨departures, after, progress⟩, loaded, ran⟩ := Checked.bind_eq_ok_iff.mp ran
      dsimp only at ran
      split at ran
      case h_2 => cases ran
      case h_1 =>
        cases ran
        exact ⟨member, hosted, departures, after, _, houses, by simpa using returns, loaded,
          (houses.note _).modifyHosted _⟩

/-- A get that a peer was asked for ends with the value of the peer, or turns to the loader. -/
theorem answerAt_eq_ok {given : GetResult}
    (ran : cluster.answerAt node group call given = .ok (result, next)) :
    ∃ member hosted after progress, cluster.Houses node group member hosted ∧
      hosted.group.fetched call given = .ok (after, progress) ∧
      (progress = .finished result ∧
          next = cluster.place node group { hosted with group := after } ∨
        ∃ key, progress = .asks (.load key) ∧
          (cluster.place node group { hosted with group := after }).loadAt node group call key =
            .ok (result, next)) := by
  unfold answerAt at ran
  split at ran
  case h_1 => cases ran
  case h_2 hosted placed =>
    obtain ⟨member, houses⟩ := exists_houses placed
    obtain ⟨⟨after, progress⟩, fetched, ran⟩ := Checked.bind_eq_ok_iff.mp ran
    dsimp only at ran
    rw [houses.modifyHosted] at ran
    refine ⟨member, hosted, after, progress, houses, fetched, ?_⟩
    split at ran
    case h_1 =>
      cases ran
      exact .inl ⟨rfl, rfl⟩
    case h_2 key => exact .inr ⟨key, rfl, ran⟩
    case h_3 => cases ran

/-- A get ends when it is polled for the first time, or when it is brought what it asks for then. -/
theorem getVia_eq_ok {remote : GetAt}
    (ran : getVia remote cluster node group key = .ok (result, next)) :
    ∃ member hosted after progress, cluster.Houses node group member hosted ∧
      (hosted.group.call hosted.group.nextCall key).poll
          hosted.group.nextCall (member.pool.pick key) =
        .ok (after, progress) ∧
      (progress = .finished result ∧
          next = cluster.place node group { hosted with group := after } ∨
        (∃ wanted, progress = .asks (.load wanted) ∧
          (cluster.place node group { hosted with group := after }).loadAt node group
            hosted.group.nextCall wanted = .ok (result, next)) ∨
        ∃ peer name wanted given between, progress = .asks (.fetch peer name wanted) ∧
          fetch remote (cluster.place node group { hosted with group := after }) ⟨peer⟩ name
            wanted = .ok (given, between) ∧
          between.answerAt node group hosted.group.nextCall given =
            .ok (result, next)) := by
  unfold getVia at ran
  split at ran
  case h_2 => cases ran
  case h_1 member hosted found placed =>
    have houses : cluster.Houses node group member hosted :=
      ⟨found, by rwa [Cluster.hosted?, found, Option.bind_some] at placed⟩
    obtain ⟨⟨after, progress⟩, polled, ran⟩ := Checked.bind_eq_ok_iff.mp ran
    dsimp only at ran
    rw [houses.modifyHosted] at ran
    refine ⟨member, hosted, after, progress, houses, polled, ?_⟩
    split at ran
    case h_1 =>
      cases ran
      exact .inl ⟨rfl, rfl⟩
    case h_2 wanted => exact .inr (.inl ⟨wanted, rfl, ran⟩)
    case h_3 peer name wanted =>
      obtain ⟨⟨given, between⟩, fetched, answers⟩ := Checked.bind_eq_ok_iff.mp ran
      exact .inr (.inr ⟨peer, name, wanted, given, between, rfl, fetched, answers⟩)
    case h_4 | h_5 => cases ran

/-- A server refuses a request, or counts it and makes its answer of what the get comes to. -/
theorem serve_eq_ok {get : GetAt} {request : Request} {response : Response}
    (ran : serve get cluster node request = .ok (response, next)) :
    ∃ member, cluster.nodes[node]? = some member ∧
      ((∃ refusal, PeerRoutes.dispatch member.pool.options.basePath member.registry.get? request =
            .error refusal ∧ response = refusal.response ∧ next = cluster) ∨
        ∃ group key result, PeerRoutes.dispatch member.pool.options.basePath member.registry.get?
            request = .ok (group, key) ∧
          get (cluster.modifyHosted node group fun hosted =>
            { hosted with group := hosted.group.recordRequest }) node group key =
              .ok (result, next) ∧
          response = PeerRoutes.respond result) := by
  unfold serve at ran
  split at ran
  case h_1 => cases ran
  case h_2 member found =>
    refine ⟨member, found, ?_⟩
    split at ran
    case h_1 refusal refused =>
      cases ran
      exact .inl ⟨refusal, refused, rfl, rfl⟩
    case h_2 group key dispatched =>
      obtain ⟨⟨result, after⟩, got, ran⟩ := Checked.bind_eq_ok_iff.mp ran
      cases ran
      exact .inr ⟨group, key, result, dispatched, got, rfl⟩

/-- A getter does not come through to a peer, finds a stub, or takes what a server answers. -/
theorem fetch_eq_ok {get : GetAt} {getter : Getter} {name : String}
    (ran : fetch get cluster getter name key = .ok (result, next)) :
    (next = cluster ∨ next = cluster.note [.wire "GET" (getter.url name key)]) ∧
        (∃ reason, result = getter.unavailable reason) ∨
      next = cluster.note [.wire "GET" (getter.url name key)] ∧
        (∃ (host : String) (status : Nat) (body : Bytes) (announced : Nat),
          cluster.hosts[host]? = some (.stub status body announced) ∧
            result = getter.received status body announced) ∨
      ∃ host target position response, Url.parse (getter.url name key) = .http host target ∧
        cluster.hosts[host]? = some (.node position) ∧
        serve get (cluster.note [.wire "GET" (getter.url name key)]) position
          (.ofTarget "GET" target) = .ok (response, next) ∧
        result = getter.taken response := by
  unfold fetch fetchThrough at ran
  dsimp only at ran
  split at ran
  case h_1 | h_2 =>
    cases ran
    exact .inl ⟨.inl rfl, _, rfl⟩
  case h_3 host target parsed =>
    split at ran
    case isTrue =>
      cases ran
      exact .inl ⟨.inl rfl, _, rfl⟩
    case isFalse =>
      split at ran
      case h_1 =>
        cases ran
        exact .inl ⟨.inr rfl, _, rfl⟩
      case h_2 status body announced found =>
        cases ran
        exact .inr (.inl ⟨rfl, host, status, body, announced, found, rfl⟩)
      case h_3 position found =>
        obtain ⟨⟨response, after⟩, served, ran⟩ := Checked.bind_eq_ok_iff.mp ran
        cases ran
        exact .inr (.inr ⟨host, target, position, response, parsed, found, served, rfl⟩)

end Cluster

end PeerCache
