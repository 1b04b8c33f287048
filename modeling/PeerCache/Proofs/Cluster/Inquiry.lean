import PeerCache.Proofs.Cluster.Admission
import PeerCache.Proofs.Http.Queries

/-! # Inquiries at the front api

A query that carries a key among other pairs, in whatever way it is written, asks the front api of a
group for this key. The reply is made of what a get of the key comes to: its value, or the text of
its error.
-/

namespace PeerCache

namespace Cluster

/-- What it means for a request at the front api of a group that it is an inquiry about a key. -/
structure Inquiry (cluster : Cluster) (node group : Nat) (member : ClusterNode) (hosted : Hosted)
    (key : String) (request : Request) : Prop where
  /-- The request is for the key. -/
  asks : FrontApi.key? request = some key
  /-- Once its get is begun, under any number that is free, the get has ended, or it is under way
  and goes on in whatever comes about. -/
  begins : ∀ call, hosted.group.isLive call = false → ∃ begun progress,
    (hosted.group.call call key).poll call (member.pool.pick key) = .ok (begun, progress) ∧
      hosted.group.Counts begun 1 0 ∧
      hosted.group.Enters call key (member.pool.pick key) begun progress ∧
      (∀ result, progress = .finished result →
        Answers 500 key result (FrontApi.respond result)) ∧
      ∀ later, (cluster.place node group { hosted with group := begun }).Becomes later →
        GoesOn 500 FrontApi.respond later node group call key
  /-- There is a reply if the get comes to its end, and it is made of what the get comes to. -/
  ends : ∀ remote response after,
    serveApi (getVia remote) cluster node group request = .ok (response, after) ↔
      ∃ result, getVia remote cluster node group key = .ok (result, after) ∧
        Answers 500 key result response
  /-- It has an end if the group can tell what the get comes to. -/
  told : Tells member hosted key → ∀ remote, ∃ response after,
    serveApi (getVia remote) cluster node group request = .ok (response, after)
  /-- The gets of the cluster itself are run in this way. -/
  runs : ∃ remote, get cluster = getVia remote cluster

variable {cluster after : Cluster} {node group : Nat} {member : ClusterNode} {hosted : Hosted}
  {request : Request} {response : Response} {key query : String} {result : GetResult}
  {remote : GetAt} {pairs : List (String × String)}

private theorem responds_frontApi : Responds 500 FrontApi.respond :=
  responds_of_eq (fun _ => rfl) rfl fun _ => rfl

private theorem serveApi_of_key (asks : FrontApi.key? request = some key) (get : GetAt)
    (cluster : Cluster) (node group : Nat) :
    serveApi get cluster node group request = do
      let (result, after) ← get cluster node group key
      return (FrontApi.respond result, after) := by
  rw [serveApi, asks]

private theorem inquiry_of_key (reachable : cluster.Reachable)
    (houses : cluster.Houses node group member hosted)
    (asks : FrontApi.key? request = some key) :
    Inquiry cluster node group member hosted key request where
  asks := asks
  begins _ free := responds_frontApi.begins reachable houses free key
  ends := by
    intro remote response after
    rw [serveApi_of_key asks, returned_iff FrontApi.respond]
    refine exists_congr fun result => and_congr_right fun got => ?_
    exact (responds_frontApi key result (results_of_getVia reachable houses got) response).symm
  told := by
    intro tells remote
    obtain ⟨result, after, got⟩ := exists_getVia reachable houses tells remote
    rw [serveApi_of_key asks, got]
    exact ⟨_, _, rfl⟩
  runs := ⟨getWithin cluster.groupCount, rfl⟩

/-- The query of a target begins behind the first question mark. -/
private theorem ofTarget_api (query : String) :
    Request.ofTarget "GET" ("/api?" ++ query) = ⟨"GET", "/api", query⟩ := by
  have target : ("/api?" ++ query).toList = "/api".toList ++ '?' :: query.toList := by
    simp
  have path : ∀ char ∈ "/api".toList, (char != '?') = true := by
    intro char member
    obtain rfl | rfl | rfl | rfl : char = '/' ∨ char = 'a' ∨ char = 'p' ∨ char = 'i' := by
      simpa using member
    all_goals decide
  rw [Request.ofTarget, target, List.takeWhile_append_of_pos path,
    List.dropWhile_append_of_pos path]
  simp

/-- The front api is asked for the key that was written into the query, and replies with what a get
of it comes to. -/
theorem inquiry (carries : Query.Carries query pairs) (reachable : cluster.Reachable)
    (houses : cluster.Houses node group member hosted) :
    ∃ key, Query.First "key" pairs key ∧ Query.value "key" query = key ∧
      Inquiry cluster node group member hosted key (.ofTarget "GET" ("/api?" ++ query)) := by
  refine ⟨Query.value "key" query, ?_, rfl, inquiry_of_key reachable houses ?_⟩
  · rw [← Query.pairs_of_carries carries]
    exact Query.first_value "key" query
  · rw [ofTarget_api, FrontApi.key?, if_pos rfl]

/-- The key of this query is written with a plus sign and with escapes in either case, and its name
with one more, behind another pair and an empty part. -/
private theorem carries_accented :
    Query.Carries "a=%2B&&k%65y=J+%c3%A9" [("a", "+"), ("key", "J \u00e9")] := by
  have other : Query.Writes (Bytes.ofText "a") "a".toList := by
    rw [show Bytes.ofText "a" = [97] by decide +kernel]
    exact .plain (by decide) .nil
  have plus : Query.Writes (Bytes.ofText "+") "%2B".toList := by
    rw [show Bytes.ofText "+" = [43] by decide +kernel]
    exact .escape (by decide) (by decide) .nil
  have name : Query.Writes (Bytes.ofText "key") "k%65y".toList := by
    rw [show Bytes.ofText "key" = [107, 101, 121] by decide +kernel]
    exact .plain (by decide) (.escape (by decide) (by decide) (.plain (by decide) .nil))
  have value : Query.Writes (Bytes.ofText "J \u00e9") "J+%c3%A9".toList := by
    rw [show Bytes.ofText "J \u00e9" = [74, 32, 195, 169] by decide +kernel]
    exact .plain (by decide) (.space (.escape (by decide) (by decide)
      (.escape (by decide) (by decide) .nil)))
  exact ⟨_, .pair other plus (.empty (.pair name value .nil)), by decide +kernel⟩

/-- The front api of a node that is alone with its group of scores is asked for this key. -/
theorem inquiry_scoreboard :
    Query.Carries "a=%2B&&k%65y=J+%c3%A9" [("a", "+"), ("key", "J \u00e9")] ∧
      scoreboard.Reachable ∧
      scoreboard.Houses 0 0 ((ClusterNode.create "http://localhost:8001" {}).add scores) scores ∧
      ∃ key, Query.First "key" [("a", "+"), ("key", "J \u00e9")] key ∧
        Query.value "key" "a=%2B&&k%65y=J+%c3%A9" = key ∧
        Inquiry scoreboard 0 0 ((ClusterNode.create "http://localhost:8001" {}).add scores) scores
          key (.ofTarget "GET" ("/api?" ++ "a=%2B&&k%65y=J+%c3%A9")) :=
  ⟨carries_accented, reachable_scoreboard, ⟨rfl, rfl⟩,
    inquiry carries_accented reachable_scoreboard ⟨rfl, rfl⟩⟩

end Cluster

end PeerCache
