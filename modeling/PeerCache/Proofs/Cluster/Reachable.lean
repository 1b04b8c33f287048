import PeerCache.Proofs.Cluster.Courses
import PeerCache.Proofs.Group.Answers

/-! # Clusters that can come about

A cluster starts without nodes. Nodes join, build groups and register them, are told of their peers,
and count the requests that they receive; the gets of their groups are created, polled, cancelled
and answered in any order, whoever answers them and with what; and what surrounds the nodes changes
as it likes. In whatever comes about, every group is fair and every registered name is that of a
group. What a get or a request that is run to its end leaves behind has come about as well.
-/

namespace PeerCache.Cluster

/-- What can happen in a cluster. -/
inductive Change (cluster : Cluster) : Cluster → Prop
  /-- A node joins that has no groups. -/
  | joins (base : String) (options : Pool.Options) :
      Change cluster (cluster.add (.create base options))
  /-- A node builds a group and registers it. -/
  | builds (node : Nat) (hosted : Hosted) (name : String) (plan : Storage.Plan)
      (new : hosted.group = .create name plan) :
      Change cluster (cluster.modifyNode node (·.add hosted))
  /-- A node is told of its peers. -/
  | points (node : Nat) (peers : List String) : Change cluster (cluster.setPeers node peers)
  /-- A request of a peer is counted. -/
  | counts (node group : Nat) (member : ClusterNode) (hosted : Hosted)
      (houses : cluster.Houses node group member hosted) :
      Change cluster (cluster.place node group { hosted with group := hosted.group.recordRequest })
  /-- A group acts, and a call of its loader may be counted. -/
  | acts (node group : Nat) (member : ClusterNode) (hosted : Hosted) (action : Group.Action)
      (outcome : Group.Outcome) (loads : Nat) (houses : cluster.Houses node group member hosted)
      (stepped : hosted.group.step action = .ok outcome) :
      Change cluster (cluster.place node group { hosted with group := outcome.group, loads })
  /-- Who answers at which host, whether anybody can be reached, and the log change. -/
  | turns (network : Network) (hosts : Std.ExtTreeMap String Answerer) (log : List ClusterNote) :
      Change cluster { cluster with network, hosts, log }

/-- What can come about from a cluster. -/
def Becomes : Cluster → Cluster → Prop := Relation.ReflTransGen Change

/-- What can come about at all. -/
def Reachable (cluster : Cluster) : Prop := ∃ network, (empty network).Becomes cluster

/-- All groups are fair, and what is registered under a name is a group of this name. -/
structure Regular (cluster : Cluster) : Prop where
  fair : ∀ node group member hosted, cluster.Houses node group member hosted → hosted.group.Fair
  registered : ∀ (node : Nat) (member : ClusterNode) (name : String) (group : Nat),
    cluster.nodes[node]? = some member → member.registry.get? name = some group →
    ∃ hosted, member.hosted[group]? = some hosted ∧ hosted.group.name = name

variable {cluster next : Cluster} {node group : Nat} {member : ClusterNode} {hosted held : Hosted}
  {action : Group.Action} {outcome : Group.Outcome} {key : String} {call : Nat}

/-! ## What is always so -/

private theorem regular_empty (network : Network) : (empty network).Regular where
  fair node group member hosted houses := by simpa [empty] using houses.found
  registered node member name group found := by simp [empty] at found

private theorem hosted_of_add {index : Nat}
    (housed : (member.add hosted).hosted[index]? = some held) :
    member.hosted[index]? = some held ∨ held = hosted := by
  rw [ClusterNode.add, Array.getElem?_push] at housed
  split at housed
  · exact .inr (Option.some.inj housed).symm
  · exact .inl housed

private theorem registered_of_add {name : String} {index : Nat}
    (registered : (member.add hosted).registry.get? name = some index) :
    hosted.group.name = name ∧ index = member.hosted.size ∨
      member.registry.get? name = some index := by
  simp only [ClusterNode.add, Registry.register, Registry.get?,
    Std.ExtTreeMap.getElem?_insert] at registered
  split at registered
  case isTrue same => exact .inl ⟨by simpa using same, (Option.some.inj registered).symm⟩
  case isFalse => exact .inr registered

/-- A group that takes the place of another, and its name, keeps a cluster regular if it is fair. -/
private theorem Regular.place (regular : cluster.Regular)
    (houses : cluster.Houses node group member hosted) (fair : held.group.Fair)
    (named : held.group.name = hosted.group.name) : (cluster.place node group held).Regular where
  fair position index one other houses' := by
    obtain ⟨before, -, ⟨-, -, rfl, -⟩ | stood⟩ := houses_of_place houses'
    · exact fair
    · exact regular.fair position index before other stood
  registered position one name index found registered := by
    obtain ⟨before, stood, -, -, sameRegistry⟩ := exists_of_place found
    rw [sameRegistry] at registered
    obtain ⟨other, housed, rfl⟩ := regular.registered position before name index stood registered
    by_cases here : node = position ∧ group = index
    · obtain ⟨rfl, rfl⟩ := here
      obtain rfl := houses.unique ⟨stood, housed⟩
      have placed := houses.place held
      obtain rfl := Option.some.inj (found.symm.trans placed.found)
      exact ⟨held, placed.housed, named⟩
    · obtain ⟨after, stays⟩ := (Houses.mk stood housed).place_elsewhere here held
      obtain rfl := Option.some.inj (found.symm.trans stays.found)
      exact ⟨other, stays.housed, rfl⟩

private theorem found_of_add {joined : ClusterNode}
    (found : (cluster.add joined).nodes[node]? = some member) :
    cluster.nodes[node]? = some member ∨ member = joined := by
  rw [add, Array.getElem?_push] at found
  split at found
  · exact .inr (Option.some.inj found).symm
  · exact .inl found

private theorem Regular.joins (regular : cluster.Regular) (base : String) (options : Pool.Options) :
    (cluster.add (.create base options)).Regular where
  fair position index member held houses := by
    rcases found_of_add houses.found with stood | rfl
    · exact regular.fair position index member held ⟨stood, houses.housed⟩
    · simpa [ClusterNode.create] using houses.housed
  registered position member name index found registered := by
    rcases found_of_add found with stood | rfl
    · exact regular.registered position member name index stood registered
    · simp [ClusterNode.create, Registry.empty, Registry.get?] at registered

private theorem Regular.builds (regular : cluster.Regular) (node : Nat) (fair : hosted.group.Fair) :
    (cluster.modifyNode node (·.add hosted)).Regular where
  fair position index after held houses := by
    obtain ⟨before, stood, rfl | rfl⟩ := exists_of_modifyNode houses.found
    · exact regular.fair position index after held ⟨stood, houses.housed⟩
    · rcases hosted_of_add houses.housed with housed | rfl
      · exact regular.fair position index before held ⟨stood, housed⟩
      · exact fair
  registered position after name index found registered := by
    obtain ⟨before, stood, rfl | rfl⟩ := exists_of_modifyNode found
    · exact regular.registered position after name index stood registered
    · rcases registered_of_add registered with ⟨named, rfl⟩ | registered
      · exact ⟨hosted, by simp [ClusterNode.add], named⟩
      · obtain ⟨held, housed, named⟩ :=
          regular.registered position before name index stood registered
        have inside := (Array.getElem?_eq_some_iff.mp housed).1
        refine ⟨held, ?_, named⟩
        rw [ClusterNode.add, Array.getElem?_push, if_neg inside.ne, housed]

private theorem Regular.points (regular : cluster.Regular) (node : Nat) (peers : List String) :
    (cluster.setPeers node peers).Regular where
  fair position index after held houses := by
    obtain ⟨before, stood, sameHosted, -⟩ := exists_of_setPeers houses.found
    exact regular.fair position index before held ⟨stood, sameHosted ▸ houses.housed⟩
  registered position after name index found registered := by
    obtain ⟨before, stood, sameHosted, sameRegistry, -⟩ := exists_of_setPeers found
    rw [sameHosted]
    exact regular.registered position before name index stood (sameRegistry ▸ registered)

/-- Nothing that can happen makes a cluster irregular. -/
theorem Regular.change (regular : cluster.Regular) (change : cluster.Change next) :
    next.Regular := by
  cases change with
  | joins base options => exact regular.joins base options
  | builds node hosted name plan new =>
    exact regular.builds node (new ▸ Group.fair_create name plan)
  | points node peers => exact regular.points node peers
  | counts node group member hosted houses =>
    exact regular.place houses (regular.fair node group member hosted houses).recordRequest rfl
  | acts node group member hosted action outcome loads houses stepped =>
    have fair := regular.fair node group member hosted houses
    exact regular.place houses (fair.step stepped) (fair.advances stepped).name
  | turns network hosts log =>
    exact ⟨fun node group member hosted houses =>
      regular.fair node group member hosted ⟨houses.found, houses.housed⟩, regular.registered⟩

private theorem Regular.becomes (regular : cluster.Regular) (becomes : cluster.Becomes next) :
    next.Regular := by
  induction becomes with
  | refl => exact regular
  | tail _ change ih => exact ih.change change

/-- Whatever has come about is regular. -/
theorem Reachable.regular (reachable : cluster.Reachable) : cluster.Regular := by
  obtain ⟨network, becomes⟩ := reachable
  exact (regular_empty network).becomes becomes

/-! ## What exchanges leave behind -/

theorem Becomes.refl (cluster : Cluster) : cluster.Becomes cluster :=
  Relation.ReflTransGen.refl

theorem Reachable.becomes (reachable : cluster.Reachable) (becomes : cluster.Becomes next) :
    next.Reachable := by
  obtain ⟨network, started⟩ := reachable
  exact ⟨network, started.trans becomes⟩

/-- Every get of this kind leads to what can come about. -/
def Develops (get : GetAt) : Prop :=
  ∀ cluster node group key result next,
    get cluster node group key = .ok (result, next) → cluster.Becomes next

section

variable {start : Cluster} {get remote : GetAt} {result : GetResult} {name : String}

private theorem Becomes.note (becomes : start.Becomes cluster) (notes : List ClusterNote) :
    start.Becomes (cluster.note notes) :=
  becomes.tail (.turns cluster.network cluster.hosts _)

theorem Becomes.acts (becomes : start.Becomes cluster)
    (houses : cluster.Houses node group member hosted)
    (stepped : hosted.group.step action = .ok outcome) (loads : Nat) :
    start.Becomes (cluster.place node group { hosted with group := outcome.group, loads }) :=
  becomes.tail (.acts node group member hosted action outcome loads houses stepped)

/-- To begin a get is to create it and to poll it. -/
theorem Becomes.polls (becomes : start.Becomes cluster)
    (houses : cluster.Houses node group member hosted) {owner : Option String} {after : Group}
    {progress : Group.Progress}
    (polled : (hosted.group.call call key).poll call owner = .ok (after, progress)) :
    start.Becomes (cluster.place node group { hosted with group := after }) := by
  have calls : hosted.group.step (.call call key) =
      .ok ⟨hosted.group.call call key, none, []⟩ := rfl
  have called := becomes.acts houses calls hosted.loads
  have begun := called.acts (houses.place _) (Group.step_of_poll polled) hosted.loads
  rwa [place_place] at begun

theorem Becomes.loadAt (becomes : start.Becomes cluster)
    (ran : cluster.loadAt node group call key = .ok (result, next)) : start.Becomes next := by
  obtain ⟨member, hosted, departures, after, notes, houses, -, loaded, rfl⟩ := loadAt_eq_ok ran
  exact (becomes.note notes).acts (houses.note _) (Group.step_of_loaded loaded) _

theorem Becomes.answerAt (becomes : start.Becomes cluster) {given : GetResult}
    (ran : cluster.answerAt node group call given = .ok (result, next)) : start.Becomes next := by
  obtain ⟨member, hosted, after, progress, houses, fetched, ended⟩ := answerAt_eq_ok ran
  have acted := becomes.acts houses (Group.step_of_fetched fetched) hosted.loads
  rcases ended with ⟨-, rfl⟩ | ⟨key, -, loads⟩
  · exact acted
  · exact acted.loadAt loads

theorem Develops.serve (develops : Develops get) {request : Request} {response : Response}
    (ran : Cluster.serve get cluster node request = .ok (response, next)) :
    cluster.Becomes next := by
  obtain ⟨member, -, ⟨refusal, -, -, rfl⟩ | ⟨index, key, result, -, got, -⟩⟩ := serve_eq_ok ran
  · exact .refl next
  · have became := develops _ node index key result next got
    rcases modifyHosted_cases cluster node index fun hosted =>
        { hosted with group := hosted.group.recordRequest } with
      same | ⟨member, hosted, houses, same⟩
    · rwa [same] at became
    · rw [same] at became
      exact became.head (.counts node index member hosted houses)

theorem Develops.fetch (develops : Develops get) {getter : Getter}
    (ran : Cluster.fetch get cluster getter name key = .ok (result, next)) :
    cluster.Becomes next := by
  have sent := (Becomes.refl cluster).note [.wire "GET" (getter.url name key)]
  rcases fetch_eq_ok ran with
    ⟨rfl | rfl, -⟩ | ⟨rfl, -⟩ | ⟨host, target, position, response, -, -, served, -⟩
  · exact .refl next
  · exact sent
  · exact sent
  · exact sent.trans (develops.serve served)

theorem Develops.getVia (develops : Develops remote) : Develops (getVia remote) := by
  intro cluster node group key result next ran
  obtain ⟨member, hosted, after, progress, houses, polled, ended⟩ := getVia_eq_ok ran
  have begun := (Becomes.refl cluster).polls houses polled
  rcases ended with
    ⟨-, rfl⟩ | ⟨key, -, loads⟩ | ⟨peer, name, key, given, between, -, fetched, answers⟩
  · exact begun
  · exact begun.loadAt loads
  · have returned : cluster.Becomes between := begun.trans (develops.fetch fetched)
    exact returned.answerAt answers

private theorem develops_getWithin (groups : Nat) : Develops (getWithin groups) := by
  induction groups with
  | zero =>
    intro cluster node group key result next ran
    cases ran
  | succ groups ih => exact ih.getVia

/-- What a get leaves behind has come about. -/
theorem develops_get : Develops Cluster.get :=
  fun cluster => develops_getWithin (cluster.groupCount + 1) cluster

end

end PeerCache.Cluster
