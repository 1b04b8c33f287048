import PeerCache.Proofs.Cluster.Endings
import PeerCache.Proofs.Cluster.Traffic

/-! # Gets as traffic

A get that is run to its end at once, with all that other nodes do for it, is a piece of the traffic
of its cluster. It has a number of its own in every group that it comes through, so that the gets
which are under way there keep what they need.
-/

namespace PeerCache

/-! ## The course of a get in its group -/

namespace Group

section

variable {group next : Group} {call : Nat} {key : String} {request : Request} {action : Action}
  {outcome : Outcome} {owner : Option String} {progress : Progress}

private theorem mem_liveCalls : call ∈ group.liveCalls ↔ group.isLive call = true := by
  rw [liveCalls, List.mem_mergeSort, List.mem_append, Std.ExtTreeMap.mem_keys,
    Std.ExtTreeMap.mem_keys, isLive, Bool.or_eq_true, Std.ExtTreeMap.contains_iff_mem,
    Std.ExtTreeMap.contains_iff_mem]

/-- The number after those of all live gets is free. -/
theorem isLive_next (group : Group) : group.isLive group.nextCall = false := by
  by_contra live
  rw [Bool.not_eq_false, nextCall] at live
  have bounded : group.liveCalls.foldl max 0 + 1 ≤ group.liveCalls.max?.getD 0 :=
    List.le_max?_getD_of_mem (mem_liveCalls.mpr live)
  rw [List.foldl_max] at bounded
  omega

private theorem Sound.keyOf?_of_errand (sound : group.Sound)
    (errand : group.errands[call]? = some request) : group.keyOf? call = some request.key :=
  sound.keyOf?_of_flying (sound.leads_of_errand errand).key?_eq

private theorem keyOf?_of_asks (sound : group.Sound) (stepped : group.step action = .ok outcome)
    (about : action.get? = some call) (asks : outcome.progress = some (.asks request)) :
    group.keyOf? call = some request.key ∧ outcome.group.errands[call]? = some request := by
  rcases asks_of_step sound stepped asks with
    ⟨other, owner, rfl, -, -, -, errand⟩ | ⟨other, peer, cause, rfl, errand, loads⟩
  all_goals obtain rfl : other = call := Option.some.inj about
  · have known := ((sound.advances stepped).sound.leads_of_errand errand).key?_eq
    exact ⟨sound.keyOf?_of_pursues ((sound.advances stepped).calls _ _ known), errand⟩
  · have known := sound.keyOf?_of_errand errand
    refine ⟨known, ?_⟩
    rw [errand_after sound stepped errand, loads]
    simp [Request.after, Request.remaining, Action.get?, Request.key]

theorem step_of_poll (polled : group.poll call owner = .ok (next, progress)) :
    group.step (.poll call owner) = .ok ⟨next, some progress, []⟩ := by
  simp only [step, polled]
  rfl

theorem step_of_fetched {result : GetResult}
    (answered : group.fetched call result = .ok (next, progress)) :
    group.step (.fetched call result) = .ok ⟨next, some progress, []⟩ := by
  cases errand : group.errands[call]? with
  | none => simp [fetched, errand] at answered
  | some request =>
    cases request with
    | fetch peer name key =>
      simp only [step, errand, answered]
      rfl
    | load key => simp [fetched, errand] at answered

theorem step_of_loaded {result : Except String Bytes} {departures : List Departure}
    (answered : group.loaded call result = .ok (departures, next, progress)) :
    group.step (.loaded call result) = .ok ⟨next, some progress, departures⟩ := by
  cases errand : group.errands[call]? with
  | none => simp [loaded, errand] at answered
  | some request =>
    cases request with
    | load key =>
      simp only [step, errand, answered]
      rfl
    | fetch peer name key => simp [loaded, errand] at answered

end

end Group

namespace Cluster

/-- All groups of a cluster are sound. -/
def Orderly (cluster : Cluster) : Prop :=
  ∀ node group member hosted, cluster.Houses node group member hosted → hosted.group.Sound

/-- No value comes from anybody but a server of the cluster. -/
def Unforged (cluster : Cluster) : Prop :=
  ∀ (host : String) status body announced,
    cluster.hosts[host]? = some (.stub status body announced) → status ≠ 200

/-- From one state of a cluster to another, what surrounds the groups stays, and so does what gets
wait for. -/
structure Leaves (before after : Cluster) : Prop where
  hosts : after.hosts = before.hosts
  nodes : ∀ (position : Nat) (member : ClusterNode), before.nodes[position]? = some member →
    ∃ member' : ClusterNode, after.nodes[position]? = some member' ∧ member'.pool = member.pool ∧
      member'.registry = member.registry
  groups : ∀ node group member hosted, before.Houses node group member hosted →
    ∃ member' hosted', after.Houses node group member' hosted' ∧
      ∀ (call : Nat) (request : Group.Request),
        hosted.group.errands[call]? = some request → hosted'.group.errands[call]? = some request

section

variable {start cluster next : Cluster} {node group : Nat} {member : ClusterNode}
  {hosted held : Hosted}

theorem Leaves.refl (cluster : Cluster) : Leaves cluster cluster where
  hosts := rfl
  nodes _ member found := ⟨member, found, rfl, rfl⟩
  groups _ _ member hosted houses := ⟨member, hosted, houses, fun _ _ errand => errand⟩

theorem Leaves.trans (first : Leaves start cluster) (second : Leaves cluster next) :
    Leaves start next where
  hosts := second.hosts.trans first.hosts
  nodes position member found := by
    obtain ⟨between, stood, pool, registry⟩ := first.nodes position member found
    obtain ⟨after, stands, pool', registry'⟩ := second.nodes position between stood
    exact ⟨after, stands, pool'.trans pool, registry'.trans registry⟩
  groups node group member hosted houses := by
    obtain ⟨between, one, stood, kept⟩ := first.groups node group member hosted houses
    obtain ⟨after, two, stands, kept'⟩ := second.groups node group between one stood
    exact ⟨after, two, stands,
      fun call request errand => kept' call request (kept call request errand)⟩

private theorem Leaves.turn (leaves : Leaves start cluster) (network : Network)
    (log : List ClusterNote) :
    Leaves start { cluster with network, log } where
  hosts := leaves.hosts
  nodes := leaves.nodes
  groups node group member hosted houses := by
    obtain ⟨after, one, stands, rest⟩ := leaves.groups node group member hosted houses
    exact ⟨after, one, ⟨stands.found, stands.housed⟩, rest⟩

theorem Leaves.place (leaves : Leaves start cluster)
    (houses : cluster.Houses node group member hosted)
    (kept : ∀ before stood, start.Houses node group before stood →
      ∀ (call : Nat) (request : Group.Request), stood.group.errands[call]? = some request →
        hosted.group.errands[call]? = some request → held.group.errands[call]? = some request) :
    Leaves start (cluster.place node group held) where
  hosts := leaves.hosts
  nodes position one found := by
    obtain ⟨between, stood, pool, registry⟩ := leaves.nodes position one found
    rw [getElem?_place, stood]
    split
    · exact ⟨_, rfl, pool, registry⟩
    · exact ⟨between, rfl, pool, registry⟩
  groups position index one before houses' := by
    obtain ⟨between, stood, stands, kept'⟩ := leaves.groups position index one before houses'
    by_cases here : node = position ∧ group = index
    case neg =>
      obtain ⟨after, stays⟩ := stands.place_elsewhere here held
      exact ⟨after, stood, stays, kept'⟩
    case pos =>
      obtain ⟨rfl, rfl⟩ := here
      obtain rfl := houses.unique stands
      exact ⟨_, held, houses.place held, fun call request errand =>
        kept one before houses' call request errand (kept' call request errand)⟩

theorem Unforged.leaves (unforged : Unforged start) (leaves : Leaves start next) :
    Unforged next := by
  rw [Unforged, leaves.hosts]
  exact unforged

end

end Cluster

namespace Traffic

open Cluster

/-- One state of the traffic comes from another without any need for the gets that were under
way. -/
structure Passes (before after : Traffic) : Prop where
  leads : before.Leads after
  leaves : Cluster.Leaves before.cluster after.cluster

/-- A get of this number has come up since the start at a group of a node, and the rest has only
passed. -/
structure Course (start : Traffic) (node group call : Nat) (now : Traffic) : Prop
    extends Passes start now where
  orderly : now.cluster.Orderly
  fresh : ∀ member hosted, start.cluster.Houses node group member hosted →
    hosted.group.errands[call]? = none

/-- Every get that is run in this way is a piece of the traffic. -/
def Runs (get : GetAt) : Prop :=
  ∀ traffic : Traffic, traffic.cluster.Orderly → traffic.cluster.Unforged →
    ∀ node group key result next, get traffic.cluster node group key = .ok (result, next) →
      ∃ more, traffic.Passes ⟨next, traffic.completions ++ more⟩ ∧
        ⟨node, group, key, result⟩ ∈ more

section

variable {start traffic next : Traffic} {cluster : Cluster} {node group call : Nat}
  {member : ClusterNode} {hosted : Hosted} {action : Group.Action} {outcome : Group.Outcome}
  {name key : String} {result : GetResult} {get : GetAt} {getter : Getter}

/-! ## Steps -/

private theorem orderly_of_step (orderly : traffic.cluster.Orderly) (step : traffic.Step next) :
    next.cluster.Orderly := by
  cases step with
  | acts node group member hosted action outcome houses permits stepped =>
    intro position index one held houses'
    obtain ⟨before, -, ⟨-, -, rfl, -⟩ | stood⟩ := Cluster.houses_of_place houses'
    · exact ((orderly node group member hosted houses).advances stepped).sound
    · exact orderly position index before held stood
  | counts node group member hosted stats loads houses =>
    intro position index one held houses'
    obtain ⟨before, -, ⟨-, -, rfl, -⟩ | stood⟩ := Cluster.houses_of_place houses'
    · have sound := orderly node group member hosted houses
      exact sound.restock _ sound.stored stats
    · exact orderly position index before held stood
  | points node peers bases =>
    intro position index one held houses
    obtain ⟨before, stood, sameHosted, -⟩ := Cluster.exists_of_setPeers houses.found
    exact orderly position index before held ⟨stood, sameHosted ▸ houses.housed⟩
  | turns network hosts log =>
    intro position index one held houses
    exact orderly position index one held ⟨houses.found, houses.housed⟩

theorem orderly_of_leads (orderly : traffic.cluster.Orderly) (leads : traffic.Leads next) :
    next.cluster.Orderly := by
  induction leads with
  | refl => exact orderly
  | tail earlier step ih => exact orderly_of_step ih step

theorem Passes.refl (traffic : Traffic) : Passes traffic traffic :=
  ⟨.refl, .refl _⟩

theorem Passes.trans {later : Traffic} (first : Passes traffic next) (second : Passes next later) :
    Passes traffic later :=
  ⟨first.leads.trans second.leads, first.leaves.trans second.leaves⟩

theorem Passes.note (passes : Passes start traffic) (notes : List ClusterNote) :
    Passes start ⟨traffic.cluster.note notes, traffic.completions⟩ where
  leads := passes.leads.tail (.turns traffic.cluster.network traffic.cluster.hosts _)
  leaves := passes.leaves.turn traffic.cluster.network _

theorem Passes.count (passes : Passes start traffic)
    (houses : traffic.cluster.Houses node group member hosted) (stats : Group.Stats) (loads : Nat) :
    Passes start ⟨traffic.cluster.place node group
      { hosted with group := { hosted.group with stats }, loads }, traffic.completions⟩ where
  leads := passes.leads.tail (.counts node group member hosted stats loads houses)
  leaves := passes.leaves.place houses fun _ _ _ _ _ _ errand => errand

/-! ## Courses -/

theorem Course.passes (course : Course start node group call traffic)
    (passes : Passes traffic next) : Course start node group call next where
  toPasses := course.toPasses.trans passes
  orderly := orderly_of_leads course.orderly passes.leads
  fresh := course.fresh

/-- What a get does in its group leaves the others there alone. -/
theorem Course.acts (course : Course start node group call traffic)
    (houses : traffic.cluster.Houses node group member hosted)
    (permits : traffic.Permits member hosted action) (about : action.get? = some call)
    (stepped : hosted.group.step action = .ok outcome) :
    Course start node group call
      ⟨traffic.cluster.place node group { hosted with group := outcome.group },
        traffic.completions ++ ended node group hosted.group action outcome⟩ := by
  have step := Step.acts node group member hosted action outcome houses permits stepped
  have sound := course.orderly node group member hosted houses
  refine ⟨⟨course.leads.tail step, ?_⟩, orderly_of_step course.orderly step, course.fresh⟩
  refine course.leaves.place houses ?_
  intro before stood houses' other request errand errand'
  have elsewhere : action.get? ≠ some other := by
    rintro about'
    obtain rfl : call = other := Option.some.inj (about.symm.trans about')
    simp [course.fresh before stood houses'] at errand
  exact (Group.errand_of_elsewhere sound stepped elsewhere).trans errand'

private theorem ended_of_finished {before : Group} (about : action.get? = some call)
    (known : before.keyOf? call = some key)
    (finished : outcome.progress = some (.finished result)) :
    ended node group before action outcome = [⟨node, group, key, result⟩] := by
  simp only [ended, about, Option.bind_some, known, finished]

/-! ## The course of a get that is run -/

/-- A get that is free in its group starts a course, once it is created and polled. -/
private theorem exists_course (orderly : traffic.cluster.Orderly)
    (houses : traffic.cluster.Houses node group member hosted)
    (free : hosted.group.isLive call = false) {after : Group} {progress : Group.Progress}
    (polled : (hosted.group.call call key).poll call (member.pool.pick key) =
      .ok (after, progress)) :
    ∃ more, Course traffic node group call
        ⟨traffic.cluster.place node group { hosted with group := after },
          traffic.completions ++ more⟩ ∧
      (∀ result, progress = .finished result → ⟨node, group, key, result⟩ ∈ more) ∧
      ∀ request, progress = .asks request →
        request.key = key ∧ after.errands[call]? = some request := by
  have course : Course traffic node group call traffic := {
    toPasses := .refl traffic
    orderly
    fresh := by
      intro member' hosted' houses'
      obtain rfl := houses.unique houses'
      by_contra needs
      obtain ⟨request, errand⟩ := Option.ne_none_iff_exists'.mp needs
      have live := (orderly node group member hosted houses).isLive_of_errand errand
      rw [free] at live
      cases live }
  have calls : traffic.Permits member hosted (.call call key) := ⟨by simp, by simp, by simp⟩
  have created := course.acts houses calls rfl rfl
  have known : (hosted.group.call call key).keyOf? call = some key := by
    simp [Group.keyOf?, Group.call, free]
  have stepped := Group.step_of_poll polled
  have sound := created.orderly node group _ _ (houses.place _)
  have begun := created.acts (houses.place _) (by
    refine ⟨?_, by simp, by simp⟩
    rintro other owner same
    cases same
    rw [known]
    rfl) rfl stepped
  rw [place_place] at begun
  refine ⟨_, by simpa only [List.append_assoc] using begun, ?_, ?_⟩
  · rintro result rfl
    refine List.mem_append_right _ ?_
    rw [ended_of_finished rfl known rfl]
    exact List.mem_singleton_self _
  · rintro request rfl
    obtain ⟨named, errand⟩ := Group.keyOf?_of_asks sound stepped rfl rfl
    exact ⟨Option.some.inj (named.symm.trans known), errand⟩

theorem Course.loadAt (course : Course start node group call traffic)
    (houses : traffic.cluster.Houses node group member hosted)
    (errand : hosted.group.errands[call]? = some (.load key))
    (ran : traffic.cluster.loadAt node group call key = .ok (result, cluster)) :
    ∃ more, Course start node group call ⟨cluster, traffic.completions ++ more⟩ ∧
      ⟨node, group, key, result⟩ ∈ more := by
  obtain ⟨_, _, departures, after, notes, houses', -, loaded, rfl⟩ := loadAt_eq_ok ran
  obtain rfl := houses.unique houses'
  have noted := course.passes ((Passes.refl traffic).note notes)
  have acted := noted.acts (houses.note _) (by
    refine ⟨by simp, by simp, ?_⟩
    rintro other given key' same errand'
    cases same
    cases errand.symm.trans errand'
    exact ⟨_, rfl⟩) rfl (Group.step_of_loaded loaded)
  have counted := acted.passes ((Passes.refl _).count ((houses.note _).place _)
    after.stats (hosted.loads + 1))
  rw [place_place] at counted
  refine ⟨_, counted, ?_⟩
  have known := (course.orderly node group member hosted houses).keyOf?_of_errand errand
  rw [ended_of_finished rfl known rfl]
  exact List.mem_singleton_self _

/-- A get that a peer was asked for ends, with the answer of the peer or that of the loader. -/
theorem Course.answerAt (course : Course start node group call traffic)
    (houses : traffic.cluster.Houses node group member hosted) {peer : String}
    (errand : hosted.group.errands[call]? = some (.fetch peer name key)) {given : GetResult}
    (answered : ∀ value, given = .ok value → ∃ result,
      traffic.Answered ⟨peer⟩ name key result ∧
        (Getter.mk peer).taken (PeerRoutes.respond result) = .ok value)
    (ran : traffic.cluster.answerAt node group call given = .ok (result, cluster)) :
    ∃ more, Course start node group call ⟨cluster, traffic.completions ++ more⟩ ∧
      ⟨node, group, key, result⟩ ∈ more := by
  obtain ⟨_, _, after, progress, houses', fetched, ended⟩ := answerAt_eq_ok ran
  obtain rfl := houses.unique houses'
  have stepped := Group.step_of_fetched fetched
  have sound := course.orderly node group member hosted houses
  have known := sound.keyOf?_of_errand errand
  have acted := course.acts houses (by
    refine ⟨by simp, ?_, by simp⟩
    rintro other value peer' name' key' same errand'
    cases same
    cases errand.symm.trans errand'
    exact answered value rfl) rfl stepped
  rcases ended with ⟨rfl, rfl⟩ | ⟨key', rfl, loads⟩
  · refine ⟨_, acted, ?_⟩
    rw [ended_of_finished rfl known rfl]
    exact List.mem_singleton_self _
  · obtain ⟨named, errand'⟩ := Group.keyOf?_of_asks sound stepped rfl rfl
    obtain rfl : key = key' := Option.some.inj (known.symm.trans named)
    obtain ⟨more, course', completed⟩ := acted.loadAt (houses.place _) errand' loads
    rw [List.append_assoc] at course'
    exact ⟨_, course', List.mem_append_right _ completed⟩

/-! ## Requests -/

/-- What a server answers is traffic, and if it is a value, a get at the server came to it. -/
theorem Runs.serve (runs : Runs get) (orderly : traffic.cluster.Orderly)
    (unforged : traffic.cluster.Unforged) {request : Request} {response : Response}
    (ran : Cluster.serve get traffic.cluster node request = .ok (response, cluster)) :
    ∃ more, traffic.Passes ⟨cluster, traffic.completions ++ more⟩ ∧
      (response.status = 200 → ∃ server group key result,
        traffic.cluster.nodes[node]? = some server ∧
        PeerRoutes.dispatch server.pool.options.basePath server.registry.get? request =
          .ok (group, key) ∧
        response = PeerRoutes.respond result ∧ ⟨node, group, key, result⟩ ∈ more) := by
  obtain ⟨server, found, ⟨refusal, -, rfl, rfl⟩ | ⟨index, key, result, served, got, rfl⟩⟩ :=
    serve_eq_ok ran
  · exact ⟨[], by simpa using Passes.refl traffic,
      fun accepted => absurd accepted (Cluster.status_refusal refusal)⟩
  · have counted : traffic.Passes ⟨traffic.cluster.modifyHosted node index fun hosted =>
        { hosted with group := hosted.group.recordRequest }, traffic.completions⟩ := by
      rcases modifyHosted_cases traffic.cluster node index fun hosted =>
          { hosted with group := hosted.group.recordRequest } with
        same | ⟨member, hosted, houses, same⟩
      · rw [same]
        exact .refl traffic
      · rw [same]
        exact (Passes.refl traffic).count houses _ hosted.loads
    obtain ⟨more, passes, completed⟩ := runs _ (orderly_of_leads orderly counted.leads)
      (unforged.leaves counted.leaves) node index key result _ got
    exact ⟨more, counted.trans passes, fun _ =>
      ⟨server, index, key, result, found, served, rfl, completed⟩⟩

theorem Runs.fetch (runs : Runs get) (orderly : traffic.cluster.Orderly)
    (unforged : traffic.cluster.Unforged)
    (ran : Cluster.fetch get traffic.cluster getter name key = .ok (result, cluster)) :
    ∃ more, traffic.Passes ⟨cluster, traffic.completions ++ more⟩ ∧
      ∀ value, result = .ok value → ∃ given,
        Answered ⟨cluster, traffic.completions ++ more⟩ getter name key given ∧
          getter.taken (PeerRoutes.respond given) = .ok value := by
  have sent := (Passes.refl traffic).note [.wire "GET" (getter.url name key)]
  rcases fetch_eq_ok ran with
    ⟨way, reason, rfl⟩ | ⟨rfl, host, status, body, announced, found, rfl⟩ |
      ⟨host, target, position, response, parsed, found, served, rfl⟩
  · refine ⟨[], ?_, by simp [Getter.unavailable]⟩
    rcases way with rfl | rfl
    · simpa using Passes.refl traffic
    · simpa using sent
  · have refused := unforged host status body announced found
    exact ⟨[], by simpa using sent, by simp [Getter.received, refused, Getter.unavailable]⟩
  · obtain ⟨more, passes, answers⟩ := runs.serve (orderly_of_leads orderly sent.leads)
      (unforged.leaves sent.leaves) served
    refine ⟨more, sent.trans passes, fun value taken => ?_⟩
    have accepted : response.status = 200 := by
      by_contra other
      simp [Cluster.taken_other getter other] at taken
    obtain ⟨server, index, key', given, stood, dispatched, rfl, completed⟩ := answers accepted
    obtain ⟨server', stands, pool, registry⟩ := passes.leaves.nodes position server stood
    refine ⟨given, ⟨host, target, parsed, position, server', stands, index, key', ?_, ?_⟩, taken⟩
    · rw [pool, registry, dispatched]
    · exact List.mem_append_right _ completed

/-! ## Gets -/

/-- A get that is run to its end is traffic, if those are that it needs from other nodes. -/
theorem Runs.getVia {remote : GetAt} (runs : Runs remote) : Runs (Cluster.getVia remote) := by
  intro traffic orderly unforged node group key result cluster got
  obtain ⟨member, hosted, after, progress, houses, polled, ended⟩ := getVia_eq_ok got
  obtain ⟨begun, course, finishes, asks⟩ :=
    exists_course orderly houses (Group.isLive_next hosted.group) polled
  rcases ended with
    ⟨rfl, rfl⟩ | ⟨key', rfl, loads⟩ | ⟨peer, name, key', given, between, rfl, fetched, answering⟩
  · exact ⟨begun, course.toPasses, finishes result rfl⟩
  · obtain ⟨same, errand⟩ := asks _ rfl
    obtain rfl : key' = key := same
    obtain ⟨more, course', completed⟩ := course.loadAt (houses.place _) errand loads
    rw [List.append_assoc] at course'
    exact ⟨begun ++ more, course'.toPasses, List.mem_append_right _ completed⟩
  · obtain ⟨same, errand⟩ := asks _ rfl
    obtain rfl : key' = key := same
    obtain ⟨fetching, passes, answered⟩ :=
      runs.fetch course.orderly (unforged.leaves course.leaves) fetched
    -- the get is still under way in its group, whatever came through there
    obtain ⟨member', hosted', houses', kept⟩ :=
      passes.leaves.groups node group _ _ (houses.place _)
    obtain ⟨more, course', completed⟩ :=
      (course.passes passes).answerAt houses' (kept _ _ errand) answered answering
    simp only [List.append_assoc] at course'
    exact ⟨begun ++ (fetching ++ more), course'.toPasses,
      List.mem_append_right _ (List.mem_append_right _ completed)⟩

private theorem runs_getWithin (groups : Nat) : Runs (Cluster.getWithin groups) := by
  induction groups with
  | zero =>
    intro traffic orderly unforged node group key result next ran
    cases ran
  | succ groups ih => exact ih.getVia

theorem runs_get : Runs Cluster.get :=
  fun traffic => runs_getWithin (traffic.cluster.groupCount + 1) traffic

end

end Traffic

end PeerCache
