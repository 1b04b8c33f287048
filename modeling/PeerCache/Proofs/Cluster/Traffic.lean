import PeerCache.Proofs.Cluster.RemoteGet
import PeerCache.Proofs.Group.Truth
import PeerCache.Proofs.Http.Bases

/-! # The traffic of a cluster

Any number of gets may be under way in a cluster, at any nodes, and everything that happens to them
happens in any order: they are created, polled, cancelled and answered. A peer may fail at any time,
for whatever reason. If it answers with a value, then a server of the cluster was asked for that
value and a get at its node came to it. Peers may be set anew, and nodes may come and go.

If all groups of a name have one loader, then whatever is stored in them, on its way, or answered by
them is what that loader gives for the key in question, however many nodes it came through.
-/

namespace PeerCache

/-- A get that has come to its end at a group of a node. -/
structure Completion where
  node : Nat
  group : Nat
  key : String
  result : GetResult

/-- A cluster, and the gets that have come to their end in it, in order. -/
structure Traffic where
  cluster : Cluster
  completions : List Completion

namespace Traffic

/-- Some server of the cluster has been asked what a getter asks for, and a get at its node has come
to this result. -/
def Answered (traffic : Traffic) (getter : Getter) (name key : String) (result : GetResult) :
    Prop :=
  ∃ host target, Url.parse (getter.url name key) = .http host target ∧
    ∃ (node : Nat) (server : ClusterNode), traffic.cluster.nodes[node]? = some server ∧
      ∃ group found, PeerRoutes.dispatch server.pool.options.basePath server.registry.get?
          (.ofTarget "GET" target) = .ok (group, found) ∧
        ⟨node, group, found, result⟩ ∈ traffic.completions

/-- What surrounds a group at a node has a part in an action on it: the pool names the owner of a
key, a value that a peer sends was answered by a server, and the loader is that of the group. A peer
may fail in any way. -/
structure Permits (traffic : Traffic) (member : ClusterNode) (hosted : Hosted)
    (action : Group.Action) : Prop where
  picks : ∀ call owner, action = .poll call owner →
    owner = (hosted.group.keyOf? call).bind member.pool.pick
  answers : ∀ call value peer name key, action = .fetched call (.ok value) →
    hosted.group.errands[call]? = some (.fetch peer name key) →
    ∃ result, traffic.Answered ⟨peer⟩ name key result ∧
      (Getter.mk peer).taken (PeerRoutes.respond result) = .ok value
  loads : ∀ call result key, action = .loaded call result →
    hosted.group.errands[call]? = some (.load key) → ∃ number, result = hosted.load number key

/-- The get that an action on a group ends, if it ends one. -/
def ended (node group : Nat) (before : Group) (action : Group.Action) (outcome : Group.Outcome) :
    List Completion :=
  match outcome.progress, action.get?.bind before.keyOf? with
  | some (.finished result), some key => [⟨node, group, key, result⟩]
  | _, _ => []

/-- What can happen in a cluster. -/
inductive Step (traffic : Traffic) : Traffic → Prop
  /-- A group acts. -/
  | acts (node group : Nat) (member : ClusterNode) (hosted : Hosted) (action : Group.Action)
      (outcome : Group.Outcome) (houses : traffic.cluster.Houses node group member hosted)
      (permits : traffic.Permits member hosted action)
      (stepped : hosted.group.step action = .ok outcome) :
      Step traffic ⟨traffic.cluster.place node group { hosted with group := outcome.group },
        traffic.completions ++ ended node group hosted.group action outcome⟩
  /-- Something is counted. -/
  | counts (node group : Nat) (member : ClusterNode) (hosted : Hosted) (stats : Group.Stats)
      (loads : Nat) (houses : traffic.cluster.Houses node group member hosted) :
      Step traffic ⟨traffic.cluster.place node group
        { hosted with group := { hosted.group with stats }, loads }, traffic.completions⟩
  /-- The peers of a node are set. -/
  | points (node : Nat) (peers : List String) (bases : ∀ peer ∈ peers, Url.IsBase peer) :
      Step traffic ⟨traffic.cluster.setPeers node peers, traffic.completions⟩
  /-- Something is logged, and who answers at which host, if anybody can be reached at all,
  changes. -/
  | turns (network : Network) (hosts : Std.ExtTreeMap String Answerer) (log : List ClusterNote) :
      Step traffic ⟨{ traffic.cluster with network, hosts, log }, traffic.completions⟩

/-- What can come about in any number of steps. -/
def Leads : Traffic → Traffic → Prop := Relation.ReflTransGen Step

/-- A pool sends keys to listed peers only, under one base path. -/
def Routed (basePath : String) (pool : Pool) : Prop :=
  pool.options.basePath = basePath ∧
    ∃ listing, pool.Knows listing ∧ ∀ peer ∈ listing, Url.IsBase peer

/-- A group of a name stores and sends only what the loader gives, and has asked only peers whose
servers have the base path. -/
structure Candid (name basePath : String) (load : String → Except String Bytes) (hosted : Hosted) :
    Prop where
  named : hosted.group.name = name
  loads : ∀ number key, hosted.load number key = load key
  truthful : hosted.group.Truthful load
  routed : ∀ (call : Nat) (peer name key : String),
    hosted.group.errands[call]? = some (.fetch peer name key) →
    ∃ base, Url.IsBase base ∧ peer = base ++ basePath

/-- Whatever has come about, the groups that are registered under a name are candid, and their gets
have come to what the loader gives. -/
structure Sound (name basePath : String) (load : String → Except String Bytes)
    (traffic : Traffic) : Prop where
  pools : ∀ (position : Nat) (node : ClusterNode), traffic.cluster.nodes[position]? = some node →
    Routed basePath node.pool
  groups : ∀ position group node hosted, traffic.cluster.Houses position group node hosted →
    node.registry.get? name = some group → Candid name basePath load hosted
  completions : ∀ completion ∈ traffic.completions, ∀ node : ClusterNode,
    traffic.cluster.nodes[completion.node]? = some node →
    node.registry.get? name = some completion.group →
    completion.result = Cluster.answer load completion.key

section

variable {name basePath : String} {load : String → Except String Bytes} {traffic next : Traffic}
  {node group : Nat} {member : ClusterNode} {hosted : Hosted} {action : Group.Action}
  {outcome : Group.Outcome}

private theorem Routed.picked {pool : Pool} (routed : Routed basePath pool) {key routes : String}
    (picked : pool.pick key = some routes) :
    ∃ base, Url.IsBase base ∧ routes = base ++ basePath := by
  obtain ⟨rfl, listing, knows, bases⟩ := routed
  obtain ⟨owner, member, -, -, named⟩ := knows.picked picked
  exact ⟨owner, bases owner member, named⟩

/-- What a server has answered to a getter is what the loader gives. -/
theorem Sound.answered (sound : Sound name basePath load traffic)
    (starts : basePath.toList.head? = some '/') {base key : String} {result : GetResult}
    (isBase : Url.IsBase base)
    (answered : traffic.Answered ⟨base ++ basePath⟩ name key result) :
    result = Cluster.answer load key := by
  obtain ⟨host, target, parsed, node, server, found, group, key', served, completed⟩ := answered
  rw [(sound.pools node server found).1] at served
  obtain ⟨registered, rfl⟩ := PeerRoutes.dispatch_of_parse isBase starts parsed served
  exact sound.completions _ completed server found registered

theorem Sound.honest (sound : Sound name basePath load traffic)
    (starts : basePath.toList.head? = some '/') (candid : Candid name basePath load hosted)
    (permits : traffic.Permits member hosted action) :
    Group.Honest load hosted.group action where
  fetched := by
    intro call peer name' key value fetched errand
    obtain ⟨result, answered, taken⟩ := permits.answers call value peer name' key fetched errand
    obtain ⟨base, isBase, rfl⟩ := candid.routed call peer name' key errand
    obtain rfl : name' = name :=
      (candid.truthful.sound.errand.named call _ errand).trans candid.named
    have leads := candid.truthful.sound.leads_of_errand errand
    have nonempty : key ≠ "" := by
      rintro rfl
      exact candid.truthful.sound.keyed call leads.key?_eq
    have gives := sound.answered starts isBase answered
    rw [Cluster.eq_of_taken taken, Cluster.answer_of_nonempty nonempty] at gives
    cases given : load key with
    | ok value' =>
      rw [given] at gives
      cases gives
      rfl
    | error text =>
      rw [given] at gives
      cases gives
  loaded := by
    intro call key result loaded errand
    obtain ⟨number, gives⟩ := permits.loads call result key loaded errand
    rw [gives, candid.loads]

/-- A group can take the place of one that is registered under the name if it is candid. -/
private theorem Sound.place (sound : Sound name basePath load traffic)
    (houses : traffic.cluster.Houses node group member hosted) {held : Hosted}
    (candid : member.registry.get? name = some group → Candid name basePath load held)
    {completions : List Completion}
    (fresh : ∀ completion ∈ completions, completion.node = node ∧ completion.group = group ∧
      (member.registry.get? name = some group →
        completion.result = Cluster.answer load completion.key)) :
    Sound name basePath load
      ⟨traffic.cluster.place node group held, traffic.completions ++ completions⟩ where
  pools := by
    intro position after found
    obtain ⟨before, stood, -, samePool, -⟩ := Cluster.exists_of_place found
    rw [samePool]
    exact sound.pools position before stood
  groups := by
    intro position index one other houses' registered
    obtain ⟨before, sameRegistry, ⟨rfl, rfl, rfl, stood⟩ | stood⟩ :=
      Cluster.houses_of_place houses'
    · obtain rfl : member = before := by simpa [stood] using houses.found.symm
      exact candid (sameRegistry ▸ registered)
    · exact sound.groups position index before other stood (sameRegistry ▸ registered)
  completions := by
    intro completion completed after found registered
    obtain ⟨before, stood, -, -, sameRegistry⟩ := Cluster.exists_of_place found
    rw [sameRegistry] at registered
    rcases List.mem_append.mp completed with earlier | new
    · exact sound.completions completion earlier before stood registered
    · obtain ⟨here, there, gives⟩ := fresh completion new
      rw [here] at stood
      rw [there] at registered
      obtain rfl : member = before := by simpa [stood] using houses.found.symm
      exact gives registered

/-- What a candid group does leaves it candid, and ends a get with what the loader gives. -/
theorem Sound.acts (sound : Sound name basePath load traffic)
    (starts : basePath.toList.head? = some '/')
    (houses : traffic.cluster.Houses node group member hosted)
    (permits : traffic.Permits member hosted action)
    (stepped : hosted.group.step action = .ok outcome)
    (registered : member.registry.get? name = some group) :
    Candid name basePath load { hosted with group := outcome.group } ∧
      ∀ completion ∈ ended node group hosted.group action outcome,
        completion.result = Cluster.answer load completion.key := by
  have candid := sound.groups node group member hosted houses registered
  have honest := sound.honest starts candid permits
  obtain ⟨truthful, sameName, ends⟩ := candid.truthful.step honest stepped
  refine ⟨⟨sameName.trans candid.named, candid.loads, truthful, ?_⟩, ?_⟩
  · intro call peer name' key errand
    rcases Group.fetch_origin candid.truthful.sound stepped errand with before | rfl
    · exact candid.routed call peer name' key before
    · have owner := permits.picks call (some peer) rfl
      obtain ⟨key', -, picked⟩ := Option.bind_eq_some_iff.mp owner.symm
      exact (sound.pools node member houses.found).picked picked
  · intro completion completed
    unfold ended at completed
    split at completed
    case h_1 result key finished known =>
      obtain rfl := List.mem_singleton.mp completed
      obtain ⟨call, key', about, known', gives⟩ := ends result finished
      rw [about, Option.bind_some, known'] at known
      cases known
      exact gives
    case h_2 => cases completed

private theorem Routed.set {pool : Pool} (routed : Routed basePath pool) {peers : List String}
    (bases : ∀ peer ∈ peers, Url.IsBase peer) : Routed basePath (pool.set peers) :=
  ⟨routed.1, peers, pool.knows_set peers, bases⟩

private theorem Sound.setPeers (sound : Sound name basePath load traffic) (node : Nat)
    {peers : List String} (bases : ∀ peer ∈ peers, Url.IsBase peer) :
    Sound name basePath load ⟨traffic.cluster.setPeers node peers, traffic.completions⟩ := by
  refine ⟨?_, ?_, ?_⟩
  · intro position after found
    obtain ⟨before, stood, -, -, same | set⟩ := Cluster.exists_of_setPeers found
    · exact same ▸ sound.pools position before stood
    · exact set ▸ (sound.pools position before stood).set bases
  · intro position group after hosted houses registered
    obtain ⟨before, stood, sameHosted, sameRegistry, -⟩ := Cluster.exists_of_setPeers houses.found
    exact sound.groups position group before hosted ⟨stood, sameHosted ▸ houses.housed⟩
      (sameRegistry ▸ registered)
  · intro completion completed after found registered
    obtain ⟨before, stood, -, sameRegistry, -⟩ := Cluster.exists_of_setPeers found
    exact sound.completions completion completed before stood (sameRegistry ▸ registered)

/-- Every step of a cluster keeps it sound. -/
theorem Sound.step (sound : Sound name basePath load traffic)
    (starts : basePath.toList.head? = some '/') (step : traffic.Step next) :
    Sound name basePath load next := by
  cases step with
  | acts node group member hosted action outcome houses permits stepped =>
    have acts := sound.acts starts houses permits stepped
    refine sound.place houses (fun registered => (acts registered).1) ?_
    intro completion completed
    refine ⟨?_, ?_, fun registered => (acts registered).2 completion completed⟩
    all_goals
      unfold ended at completed
      split at completed
      · rw [List.mem_singleton.mp completed]
      · cases completed
  | counts node group member hosted stats loads houses =>
    have counted : member.registry.get? name = some group → Candid name basePath load
        { hosted with group := { hosted.group with stats }, loads } := by
      intro registered
      have candid := sound.groups node group member hosted houses registered
      exact ⟨candid.named, candid.loads, candid.truthful.count stats, candid.routed⟩
    simpa using sound.place houses counted (List.forall_mem_nil _)
  | points node peers bases => exact sound.setPeers node bases
  | turns network hosts log =>
    exact {
      pools := sound.pools
      groups := fun position group node hosted houses =>
        sound.groups position group node hosted ⟨houses.found, houses.housed⟩
      completions := sound.completions }

/-- Whatever comes about in a cluster keeps it sound. -/
theorem Sound.leads (sound : Sound name basePath load traffic)
    (starts : basePath.toList.head? = some '/') (leads : traffic.Leads next) :
    Sound name basePath load next := by
  induction leads with
  | refl => exact sound
  | tail earlier step ih => exact ih.step starts step

end

end Traffic

end PeerCache
