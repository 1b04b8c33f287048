import PeerCache.Cluster.Run
import PeerCache.Proofs.Cluster.Courses

/-! # Transparency

Where all groups of a name have one loader, nobody who gets a key from any of them can tell that it
was not the loader that answered. This does not depend on what the pools say: a key may be sent
through any nodes, in vain or not, and every node that it comes to has it from the loader in the
end, by way of its storage, of another get, of a peer or of its own loader. Only addresses matter.
They have to be read by a server for the key that they were written for, which is why all nodes have
one base path.
-/

namespace PeerCache.Cluster

/-- Before the first get, whoever has registered a group of this name loads the same values for it,
and whoever is believed to be a peer has the base path of all. What the nodes believe, what their
groups keep, and who can be reached is up to them. -/
structure Uniform (name basePath : String) (load : String → Except String Bytes)
    (cluster : Cluster) : Prop where
  starts : basePath.toList.head? = some '/'
  pools : ∀ (position : Nat) (node : ClusterNode), cluster.nodes[position]? = some node →
    ∃ this options lists, node.pool = (Pool.create this options).setAll lists ∧
      options.basePath = basePath ∧ ∀ listing ∈ lists, ∀ peer ∈ listing, Url.IsBase peer
  created : ∀ position group node hosted, cluster.Houses position group node hosted →
    ∃ given plan hasPeers, hosted.group = { Group.create given plan with hasPeers }
  named : ∀ position group node hosted, cluster.Houses position group node hosted →
    node.registry.get? name = some group → hosted.group.name = name
  loads : ∀ position group node hosted, cluster.Houses position group node hosted →
    node.registry.get? name = some group → ∀ number key, hosted.load number key = load key

/-- What it means for a cluster that gets of a group cannot be told from the loader. -/
structure Transparent (name : String) (load : String → Except String Bytes) (cluster : Cluster) :
    Prop where
  /-- Whatever has come about, all gets that ended at the groups of the name came to what the loader
  gives. -/
  ended : ∀ traffic : Traffic, Traffic.Leads ⟨cluster, []⟩ traffic →
    ∀ completion ∈ traffic.completions, ∀ node : ClusterNode,
      traffic.cluster.nodes[completion.node]? = some node →
      node.registry.get? name = some completion.group →
      completion.result = answer load completion.key
  /-- So does a get that is run to its end then, and what it leads to has come about as well. -/
  got : ∀ traffic : Traffic, Traffic.Leads ⟨cluster, []⟩ traffic → traffic.cluster.Unforged →
    ∀ node key result after, traffic.cluster.getFrom name node key = .ok (result, after) →
      result = answer load key ∧
        ∃ more, Traffic.Leads ⟨cluster, []⟩ ⟨after, traffic.completions ++ more⟩
  /-- And so do all gets of a run. -/
  ran : cluster.Unforged → ∀ gets results final, cluster.run name gets = .ok (results, final) →
    results = gets.map fun get => answer load get.2

variable {name basePath : String} {load : String → Except String Bytes} {cluster : Cluster}

private theorem truthful_new (load : String → Except String Bytes) (given : String)
    (plan : Storage.Plan) (hasPeers : Bool) :
    { Group.create given plan with hasPeers }.Truthful load := by
  have new := Group.truthful_create load given plan
  cases hasPeers with
  | false => exact new
  | true =>
    have honest : Group.Honest load (Group.create given plan) .registerPeers :=
      ⟨by simp, by simp⟩
    exact (new.step honest rfl).1

private theorem Uniform.orderly (uniform : Uniform name basePath load cluster) :
    cluster.Orderly := by
  intro node group member hosted houses
  obtain ⟨given, plan, hasPeers, new⟩ := uniform.created node group member hosted houses
  rw [new]
  exact (truthful_new load given plan hasPeers).sound

theorem Uniform.sound (uniform : Uniform name basePath load cluster) :
    Traffic.Sound name basePath load ⟨cluster, []⟩ where
  pools := by
    intro position node found
    obtain ⟨this, options, lists, same, based, bases⟩ := uniform.pools position node found
    rw [same]
    refine ⟨(congrArg Pool.Options.basePath (Pool.identity_setAll _ lists).2).trans based, ?_⟩
    rcases List.eq_nil_or_concat' lists with rfl | ⟨earlier, listing, rfl⟩
    · exact ⟨[], Pool.knows_create this options, by simp⟩
    · exact ⟨listing, Pool.setAll_concat _ earlier listing ▸ Pool.knows_set _ listing,
        bases listing (by simp)⟩
  groups := by
    intro position group node hosted houses registered
    obtain ⟨given, plan, hasPeers, new⟩ := uniform.created position group node hosted houses
    exact {
      named := uniform.named position group node hosted houses registered
      loads := uniform.loads position group node hosted houses registered
      truthful := new ▸ truthful_new load given plan hasPeers
      routed := by simp [new, Group.create] }
  completions := by simp

private theorem getFrom_eq_ok {node : Nat} {key : String} {outcome : GetResult × Cluster}
    (ran : cluster.getFrom name node key = .ok outcome) :
    ∃ (member : ClusterNode) (group : Nat), cluster.nodes[node]? = some member ∧
      member.registry.get? name = some group ∧ cluster.get node group key = .ok outcome := by
  unfold getFrom at ran
  split at ran
  case h_1 => cases ran
  case h_2 group registered =>
    obtain ⟨member, found, registered⟩ := Option.bind_eq_some_iff.mp registered
    exact ⟨member, group, found, registered, ran⟩

/-- What a get comes to in sound traffic, and what becomes of it. -/
theorem got_of_sound (starts : basePath.toList.head? = some '/') {traffic : Traffic}
    (sound : Traffic.Sound name basePath load traffic) (orderly : traffic.cluster.Orderly)
    (unforged : traffic.cluster.Unforged) {node : Nat} {key : String} {result : GetResult}
    {after : Cluster} (ran : traffic.cluster.getFrom name node key = .ok (result, after)) :
    result = answer load key ∧ ∃ more, traffic.Passes ⟨after, traffic.completions ++ more⟩ := by
  obtain ⟨member, group, found, registered, got⟩ := getFrom_eq_ok ran
  obtain ⟨more, passes, completed⟩ :=
    Traffic.runs_get traffic orderly unforged node group key result after got
  obtain ⟨member', found', -, sameRegistry⟩ := passes.leaves.nodes node member found
  have ended := (sound.leads starts passes.leads).completions _
    (List.mem_append_right _ completed) member' found' (sameRegistry ▸ registered)
  exact ⟨ended, more, passes⟩

theorem ran_of_sound (starts : basePath.toList.head? = some '/') (gets : List (Nat × String)) :
    ∀ {traffic : Traffic}, Traffic.Sound name basePath load traffic → traffic.cluster.Orderly →
      traffic.cluster.Unforged → ∀ {results final},
        traffic.cluster.run name gets = .ok (results, final) →
          results = gets.map fun get => answer load get.2 := by
  induction gets with
  | nil =>
    intro traffic sound orderly unforged results final ran
    cases ran
    rfl
  | cons first rest ih =>
    obtain ⟨node, key⟩ := first
    intro traffic sound orderly unforged results final ran
    obtain ⟨⟨result, next⟩, got, ran⟩ := Checked.bind_eq_ok_iff.mp ran
    obtain ⟨⟨later, last⟩, ran', ended⟩ := Checked.bind_eq_ok_iff.mp ran
    cases ended
    obtain ⟨gives, more, passes⟩ := got_of_sound starts sound orderly unforged got
    rw [List.map_cons, gives, ih (sound.leads starts passes.leads)
      (Traffic.orderly_of_leads orderly passes.leads) (unforged.leaves passes.leaves) ran']

/-- Groups with one loader are transparent, wherever they are. -/
theorem transparent (uniform : Uniform name basePath load cluster) :
    Transparent name load cluster where
  ended traffic leads := (uniform.sound.leads uniform.starts leads).completions
  got traffic leads unforged node key result after ran := by
    obtain ⟨gives, more, passes⟩ := got_of_sound uniform.starts
      (uniform.sound.leads uniform.starts leads) (Traffic.orderly_of_leads uniform.orderly leads)
      unforged ran
    exact ⟨gives, more, leads.trans passes.leads⟩
  ran unforged gets results final ran :=
    ran_of_sound uniform.starts gets uniform.sound uniform.orderly unforged ran

/-! ## Nodes that disagree -/

/-- What a loader gives that knows everybody but Sam. -/
def scoreOf (key : String) : Except String Bytes :=
  if key = "Sam" then .error "no score" else .ok (Bytes.ofText key)

/-- A node with this loader that was told of some peers. -/
def believer (base : String) (peers : List String) : ClusterNode :=
  { ((ClusterNode.create base {}).add { scores with load := fun _ => scoreOf }).registerPool with
    pool := (Pool.create base { replicas := 2 }).set peers }

/-- The first node was told of a peer that nobody has seen, and the second one only of a third,
which has no groups. -/
def hearsay : Cluster :=
  (((empty .connected).add (believer "http://localhost:8001"
      ["http://localhost:8001", "http://localhost:8002", "http://localhost:9003"])).add
    (believer "http://localhost:8002" ["http://localhost:8002", "http://localhost:8003"])).add
    (ClusterNode.create "http://localhost:8003" {})

private theorem mem_hearsay {position : Nat} {node : ClusterNode}
    (found : hearsay.nodes[position]? = some node) :
    (∃ base peers, node = believer base peers ∧ ∀ peer ∈ peers, Url.IsBase peer) ∨
      node = ClusterNode.create "http://localhost:8003" {} := by
  have isBase : ∀ authority : String,
      (authority.toList.all fun char => !Url.endsKnownAuthority char) = true →
        Url.IsBase ("http://" ++ authority) := by
    intro authority inside
    exact ⟨authority.toList, String.toList_append .., by simpa using inside⟩
  have listed : node ∈ hearsay.nodes.toList :=
    Array.mem_toList_iff.mpr (Array.mem_of_getElem? found)
  have nodes : hearsay.nodes.toList = [believer "http://localhost:8001" _, believer _ _, _] := rfl
  rw [nodes] at listed
  rcases List.mem_cons.mp listed with rfl | listed
  · left
    refine ⟨_, _, rfl, ?_⟩
    rw [List.forall_mem_cons, List.forall_mem_cons, List.forall_mem_singleton]
    exact ⟨isBase "localhost:8001" (by decide), isBase "localhost:8002" (by decide),
      isBase "localhost:9003" (by decide)⟩
  rcases List.mem_cons.mp listed with rfl | listed
  · left
    refine ⟨_, _, rfl, ?_⟩
    rw [List.forall_mem_cons, List.forall_mem_singleton]
    exact ⟨isBase "localhost:8002" (by decide), isBase "localhost:8003" (by decide)⟩
  · exact .inr (List.mem_singleton.mp listed)

private theorem houses_hearsay {position group : Nat} {node : ClusterNode} {hosted : Hosted}
    (houses : hearsay.Houses position group node hosted) :
    hosted.group = { Group.create "scores" {} with hasPeers := true } ∧
      ∀ number, hosted.load number = scoreOf := by
  have housed := houses.housed
  rcases mem_hearsay houses.found with ⟨base, peers, rfl, -⟩ | rfl
  · have groups : (believer base peers).hosted = #[{ scores with
        group := { Group.create "scores" {} with hasPeers := true },
        load := fun _ => scoreOf }] := by
      simp [believer, ClusterNode.registerPool, ClusterNode.add, ClusterNode.create, scores,
        Group.registerPeers, Group.create, Except.toOption]
    rw [groups] at housed
    have only := Array.mem_of_getElem? housed
    rw [Array.mem_singleton] at only
    subst only
    exact ⟨rfl, fun _ => rfl⟩
  · simp [ClusterNode.create] at housed

private theorem uniform_hearsay : Uniform "scores" "/_hint/" scoreOf hearsay where
  starts := rfl
  pools := by
    intro position node found
    rcases mem_hearsay found with ⟨base, peers, rfl, bases⟩ | rfl
    · exact ⟨base, { replicas := 2 }, [peers], rfl, rfl, by simpa using bases⟩
    · exact ⟨"http://localhost:8003", {}, [], rfl, rfl, by simp⟩
  created _ _ _ _ houses := ⟨"scores", {}, true, (houses_hearsay houses).1⟩
  named _ _ _ _ houses _ := congrArg Group.name (houses_hearsay houses).1
  loads _ _ _ _ houses _ number key := congrFun ((houses_hearsay houses).2 number) key

/-- What the nodes were told does not show. -/
theorem transparent_hearsay :
    Uniform "scores" "/_hint/" scoreOf hearsay ∧ Transparent "scores" scoreOf hearsay :=
  ⟨uniform_hearsay, transparent uniform_hearsay⟩

/-- The first node sends this key to the second one, which sends it on to the third. -/
example :
    (hearsay.nodes.toList.map fun node => (node.pool.pick "Bob", node.registry.get? "scores")) =
      [(some "http://localhost:8002/_hint/", some 0), (some "http://localhost:8003/_hint/", some 0),
        (none, none)] := by
  cbv

end PeerCache.Cluster
