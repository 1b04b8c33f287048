import PeerCache.Cluster.Run
import PeerCache.Proofs.Cluster.Serving
import PeerCache.Proofs.Pool.Picking

/-! # One hop and one copy

In a cluster whose pools were set to the same peers, the node that a pool sends a key to is the one
whose own pool keeps it. So a get takes at most one hop, and what a loader gives for a key is stored
with the owner of the key alone, for the others get the value from there, and load for themselves
only where the loader fails. Without replicas a key has no owner, and every node keeps every key.
-/

namespace PeerCache.Cluster

/-- What the nodes of a cluster have in common. -/
structure Arrangement where
  /-- The name under which every node has registered a group. -/
  name : String
  /-- What the loaders of these groups give. -/
  load : String → Except String Bytes
  options : Pool.Options
  /-- The peers that every pool was set to. -/
  peers : List String

/-- All nodes are up, their pools were set to all of them, requests for the group of the arrangement
reach each node unchanged, and every node has registered such a group, which meets a condition. -/
structure Agreed (arrangement : Arrangement) (condition : Pool → Hosted → Prop)
    (cluster : Cluster) : Prop where
  connected : cluster.network = .connected
  pool : ∀ (position : Nat) (node : ClusterNode), cluster.nodes[position]? = some node →
    node.pool = (Pool.create node.base arrangement.options).set arrangement.peers
  listed : ∀ url, url ∈ arrangement.peers ↔
    ∃ (position : Nat) (node : ClusterNode), cluster.nodes[position]? = some node ∧ node.base = url
  delivers : ∀ (position : Nat) (node : ClusterNode) (key : String),
    cluster.nodes[position]? = some node →
    cluster.Delivers ⟨node.base ++ arrangement.options.basePath⟩ position
      arrangement.options.basePath arrangement.name key
  groups : ∀ (position : Nat) (node : ClusterNode), cluster.nodes[position]? = some node →
    ∃ group hosted, cluster.Houses position group node hosted ∧
      node.registry.get? arrangement.name = some group ∧ condition node.pool hosted

/-- A group before its first get, with the loader of the arrangement and a peer picker. -/
structure Founded (arrangement : Arrangement) (hosted : Hosted) : Prop where
  created : ∃ plan, (Group.create arrangement.name plan).registerPeers = .ok hosted.group
  loads : ∀ number key, hosted.load number key = arrangement.load key
  returns : hosted.returns = true

/-- What holds of a cluster between any two gets. -/
structure OneHop (arrangement : Arrangement) (cluster : Cluster) : Prop where
  /-- A key is stored only with its owner, if the peers have replicas at all. -/
  cached : ∀ position group node hosted key value, cluster.Houses position group node hosted →
    node.registry.get? arrangement.name = some group → hosted.group.peek key = some value →
    arrangement.options.replicas = 0 ∨ node.pool.ring.owner? key = some node.base
  /-- Any further get comes to what the loader gives, and until it does, at most one request is sent
  by anybody, to the owner of the key. -/
  asked : ∀ (position : Nat) (node : ClusterNode) (key : String),
    cluster.nodes[position]? = some node → ∃ after notes,
    cluster.getFrom arrangement.name position key = .ok (answer arrangement.load key, after) ∧
      after.log = cluster.log ++ notes ∧
      (wires notes = [] ∨ ∃ owner, owner ≠ node.base ∧ node.pool.ring.owner? key = some owner ∧
        wires notes = [.wire "GET" ((Getter.mk (owner ++ arrangement.options.basePath)).url
          arrangement.name key)])
  /-- A node that another one's pool sends a key to answers with what the loader gives, and sends no
  request to do so, whatever has become of the rest of the cluster meanwhile. -/
  served : ∀ (asker position : Nat) (one other : ClusterNode) (key : String),
    cluster.nodes[asker]? = some one →
    cluster.nodes[position]? = some other →
    one.pool.pick key = some (other.base ++ arrangement.options.basePath) →
    ∀ (meanwhile : Cluster) (remote : GetAt), meanwhile.nodes[position]? = some other →
      ∃ after notes, serve (getVia remote) meanwhile position
          (PeerRoutes.requestFor arrangement.options.basePath arrangement.name key) =
          .ok (PeerRoutes.respond (answer arrangement.load key), after) ∧
        after.log = meanwhile.log ++ notes ∧ wires notes = []

/-- Between gets, the groups of the arrangement are at rest, and store only keys that the pools of
their nodes keep. -/
def Steady (arrangement : Arrangement) : Cluster → Prop :=
  Agreed arrangement fun pool hosted =>
    Rests arrangement.name arrangement.load (fun key => pool.pick key = none) hosted

variable {arrangement : Arrangement} {cluster : Cluster} {condition : Pool → Hosted → Prop}
  {position group : Nat} {node : ClusterNode} {hosted : Hosted} {key : String}

/-! ## Agreed clusters -/

private theorem Agreed.note (agreed : Agreed arrangement condition cluster)
    (notes : List ClusterNote) :
    Agreed arrangement condition (cluster.note notes) where
  connected := agreed.connected
  pool := agreed.pool
  listed := agreed.listed
  delivers := agreed.delivers
  groups position node found := by
    obtain ⟨group, hosted, houses, registered, fine⟩ := agreed.groups position node found
    exact ⟨group, hosted, houses.note notes, registered, fine⟩

private theorem Agreed.place (agreed : Agreed arrangement condition cluster)
    (houses : cluster.Houses position group node hosted)
    (registered : node.registry.get? arrangement.name = some group) {next : Hosted}
    (fine : condition node.pool next) :
    Agreed arrangement condition (cluster.place position group next) where
  connected := agreed.connected
  pool := by
    intro other after found
    obtain ⟨before, stood, sameBase, samePool, -⟩ := exists_of_place found
    rw [samePool, sameBase]
    exact agreed.pool other before stood
  listed := by
    intro url
    rw [agreed.listed]
    constructor
    · rintro ⟨other, before, stood, rfl⟩
      obtain ⟨after, found, sameBase⟩ := exists_place stood position group next
      exact ⟨other, after, found, sameBase⟩
    · rintro ⟨other, after, found, rfl⟩
      obtain ⟨before, stood, sameBase, -⟩ := exists_of_place found
      exact ⟨other, before, stood, sameBase.symm⟩
  delivers := by
    intro other after key found
    obtain ⟨before, stood, sameBase, -⟩ := exists_of_place found
    rw [sameBase]
    exact agreed.delivers other before key stood
  groups := by
    intro other after found
    by_cases same : position = other
    · subst same
      have placed := houses.place next
      obtain rfl : node.place group next = after := by simpa [placed.found] using found
      exact ⟨group, next, placed, registered, fine⟩
    · rw [getElem?_place, if_neg same] at found
      obtain ⟨index, held, houses', registered', fine'⟩ := agreed.groups other after found
      exact ⟨index, held, houses'.place_other same next, registered', fine'⟩

private theorem Agreed.knows (agreed : Agreed arrangement condition cluster)
    (found : cluster.nodes[position]? = some node) : node.pool.Knows arrangement.peers := by
  rw [agreed.pool position node found]
  exact Pool.knows_set _ _

private theorem Agreed.this_eq (agreed : Agreed arrangement condition cluster)
    (found : cluster.nodes[position]? = some node) : node.pool.this = node.base := by
  rw [agreed.pool position node found]
  rfl

private theorem Agreed.options_eq (agreed : Agreed arrangement condition cluster)
    (found : cluster.nodes[position]? = some node) : node.pool.options = arrangement.options := by
  rw [agreed.pool position node found]
  rfl

/-- Whoever a pool picks is another node of the cluster, whose own pool keeps the key. -/
theorem Agreed.picked (agreed : Agreed arrangement condition cluster)
    (found : cluster.nodes[position]? = some node) {routes : String}
    (picked : node.pool.pick key = some routes) :
    ∃ seat owner, position ≠ seat ∧ cluster.nodes[seat]? = some owner ∧ owner.base ≠ node.base ∧
      node.pool.ring.owner? key = some owner.base ∧
      routes = owner.base ++ arrangement.options.basePath ∧ owner.pool.pick key = none := by
  have knows := agreed.knows found
  obtain ⟨peer, member, different, owns, named⟩ := knows.picked picked
  obtain ⟨seat, owner, found', rfl⟩ := (agreed.listed peer).mp member
  have here := agreed.this_eq found
  have kept : owner.pool.pick key = none := by
    refine ((agreed.knows found').candid.kept key).mpr (.inr ?_)
    rw [(agreed.knows found').ring, agreed.options_eq found', ← agreed.options_eq found,
      ← knows.ring, owns, agreed.this_eq found']
  refine ⟨seat, owner, ?_, found', here ▸ different, owns, ?_, kept⟩
  · rintro rfl
    obtain rfl : node = owner := by simpa [found] using found'
    exact different here.symm
  · rw [named, Pool.routesOf, agreed.options_eq found]

/-! ## Steady clusters -/

private theorem Agreed.steady (agreed : Agreed arrangement (fun _ => Founded arrangement) cluster) :
    Steady arrangement cluster where
  connected := agreed.connected
  pool := agreed.pool
  listed := agreed.listed
  delivers := agreed.delivers
  groups := by
    intro position node found
    obtain ⟨group, hosted, houses, registered, founded⟩ := agreed.groups position node found
    obtain ⟨plan, created⟩ := founded.created
    obtain ⟨quiet, picks, continues⟩ :=
      (Group.quiet_create arrangement.name plan).registerPeers created
    refine ⟨group, hosted, houses, registered, ⟨continues.name, picks, founded.loads,
      founded.returns, fun key value held => ?_⟩, quiet⟩
    rcases continues.stored key value held with none | never
    · cases none
    · exact never.elim

/-- A further get comes to what the loader gives for at most one request, and leaves the cluster
steady. -/
theorem Steady.get (steady : Steady arrangement cluster)
    (found : cluster.nodes[position]? = some node) (key : String) :
    ∃ after notes,
      cluster.getFrom arrangement.name position key = .ok (answer arrangement.load key, after) ∧
      Steady arrangement after ∧ after.nodes.size = cluster.nodes.size ∧
      after.log = cluster.log ++ notes ∧
      (wires notes = [] ∨ ∃ owner, owner ≠ node.base ∧ node.pool.ring.owner? key = some owner ∧
        wires notes = [.wire "GET" ((Getter.mk (owner ++ arrangement.options.basePath)).url
          arrangement.name key)]) := by
  obtain ⟨group, hosted, houses, registered, rests⟩ := steady.groups position node found
  obtain ⟨count, counted⟩ := Nat.exists_eq_succ_of_ne_zero houses.groupCount_pos.ne'
  have entered : cluster.getFrom arrangement.name position key =
      getVia (getVia (getWithin count)) cluster position group key := by
    simp only [getFrom, found, Option.bind_some, registered, Cluster.get, counted]
    rfl
  rw [entered]
  cases picks : node.pool.pick key with
  | none =>
    obtain ⟨next, notes, got, rests', silent⟩ :=
      getVia_of_kept houses rests picks picks (getVia (getWithin count))
    refine ⟨_, notes, got, (steady.note notes).place (houses.note notes) registered rests', ?_, rfl,
      .inl silent⟩
    exact Array.size_modify
  | some routes =>
    obtain ⟨seat, owner, distinct, found', other, owns, rfl, kept⟩ := steady.picked found picks
    obtain ⟨group', hosted', houses', registered', rests'⟩ := steady.groups seat owner found'
    have delivers : cluster.Delivers ⟨owner.base ++ arrangement.options.basePath⟩ seat
        owner.pool.options.basePath arrangement.name key := by
      rw [steady.options_eq found']
      exact steady.delivers seat owner key found'
    obtain ⟨next, next', notes, got, rests, rests', requests⟩ := getVia_of_sent
      ⟨owner.base ++ arrangement.options.basePath⟩ steady.connected distinct houses houses'
      registered' rests rests' picks kept kept delivers (getWithin count)
    have steady' := ((steady.note notes).place (houses'.note notes) registered' rests').place
      ((houses.note notes).place_other distinct.symm next') registered rests
    refine ⟨_, notes, got, steady', ?_, rfl, requests.imp_right fun single =>
      ⟨owner.base, other, owns, single⟩⟩
    exact Array.size_modify.trans Array.size_modify

theorem Steady.run (steady : Steady arrangement cluster) (gets : List (Nat × String))
    (inside : ∀ get ∈ gets, get.1 < cluster.nodes.size) :
    ∃ results final, cluster.run arrangement.name gets = .ok (results, final) ∧
      Steady arrangement final := by
  induction gets generalizing cluster with
  | nil => exact ⟨[], cluster, rfl, steady⟩
  | cons get rest ih =>
    obtain ⟨position, key⟩ := get
    have found := Array.getElem?_eq_getElem (inside (position, key) List.mem_cons_self)
    obtain ⟨next, notes, got, steady', size, -⟩ := steady.get found key
    obtain ⟨results, final, ran, steady''⟩ := ih steady' fun get member =>
      size ▸ inside get (List.mem_cons_of_mem _ member)
    refine ⟨answer arrangement.load key :: results, final, ?_, steady''⟩
    simp only [Cluster.run, got, ran, bind, Except.bind]
    rfl

/-- In a steady cluster, a get takes at most one hop, and there is at most one copy of a key. -/
theorem Steady.oneHop (steady : Steady arrangement cluster) : OneHop arrangement cluster where
  cached := by
    intro position group node hosted key value houses registered held
    obtain ⟨group', hosted', houses', registered', rests⟩ :=
      steady.groups position node houses.found
    obtain rfl : group = group' := by simpa [registered] using registered'
    obtain rfl : hosted = hosted' := by simpa [houses.housed] using houses'.housed
    rcases Nat.eq_zero_or_pos arrangement.options.replicas with none | some
    · exact .inl none
    · have listed := (steady.listed node.base).mpr ⟨position, node, houses.found, rfl⟩
      have owns := (steady.knows houses.found).owner_of_kept (List.ne_nil_of_mem listed)
        (steady.options_eq houses.found ▸ some) (rests.stored key value held).2
      exact .inr (steady.this_eq houses.found ▸ owns)
  asked := by
    intro position node key found
    obtain ⟨after, notes, got, -, -, logged, requests⟩ := steady.get found key
    exact ⟨after, notes, got, logged, requests⟩
  served := by
    intro asker position one other key found found' picked meanwhile remote stands
    obtain ⟨group, hosted, houses, registered, rests⟩ := steady.groups position other found'
    obtain ⟨seat, owner, -, found'', -, -, named, kept⟩ := steady.picked found picked
    have same : other.base = owner.base := (String.append_left_inj _).mp named
    have kept : other.pool.pick key = none := by
      rw [steady.pool position other found', same, ← steady.pool seat owner found'', kept]
    have houses' : meanwhile.Houses position group other hosted := ⟨stands, houses.housed⟩
    obtain ⟨next, notes, served, -, silent⟩ :=
      serve_of_kept houses' registered rests kept kept remote
    rw [steady.options_eq found'] at served
    exact ⟨_, notes, served, rfl, silent⟩

/-- Whatever gets are run in a cluster whose nodes agree about the peers, there is one hop and one
copy at any time. -/
theorem run_oneHop (agreed : Agreed arrangement (fun _ => Founded arrangement) cluster)
    (gets : List (Nat × String)) (inside : ∀ get ∈ gets, get.1 < cluster.nodes.size) :
    ∃ results final, cluster.run arrangement.name gets = .ok (results, final) ∧
      OneHop arrangement final := by
  obtain ⟨results, final, ran, steady⟩ := agreed.steady.run gets inside
  exact ⟨results, final, ran, steady.oneHop⟩

/-! ## Two nodes -/

/-- What two nodes have in common that give every key as its own value. -/
def echoes (replicas : Nat) : Arrangement where
  name := "scores"
  load key := .ok (Bytes.ofText key)
  options := { replicas }
  peers := ["http://localhost:8001", "http://localhost:8002"]

/-- A group of this arrangement, still without a picker. -/
def scores : Hosted where
  group := Group.create "scores" {}
  load _ key := .ok (Bytes.ofText key)
  isLogged := false
  returns := true

/-- A node of this arrangement. -/
def echo (replicas : Nat) (base : String) : ClusterNode :=
  { ((ClusterNode.create base (echoes replicas).options).add scores).registerPool with
    pool := (Pool.create base (echoes replicas).options).set (echoes replicas).peers }

/-- The cluster of this arrangement. -/
def echoPair (replicas : Nat) : Cluster :=
  ((empty .connected).add (echo replicas "http://localhost:8001")).add
    (echo replicas "http://localhost:8002")

theorem getElem?_echoPair {replicas : Nat} :
    (echoPair replicas).nodes[position]? = some node ↔
      position = 0 ∧ node = echo replicas "http://localhost:8001" ∨
        position = 1 ∧ node = echo replicas "http://localhost:8002" := by
  have nodes : (echoPair replicas).nodes =
      #[echo replicas "http://localhost:8001", echo replicas "http://localhost:8002"] := rfl
  rw [nodes]
  match position with
  | 0 => simp [eq_comm]
  | 1 => simp [eq_comm]
  | position + 2 => simp

theorem hosts_echoPair (replicas : Nat) :
    (echoPair replicas).hosts["localhost:8001"]? = some (.node 0) ∧
      (echoPair replicas).hosts["localhost:8002"]? = some (.node 1) := by
  have hosts : (echoPair replicas).hosts = (echoPair 0).hosts := rfl
  rw [hosts]
  decide +kernel

private theorem agreed_echoPair (replicas : Nat) :
    Agreed (echoes replicas) (fun _ => Founded (echoes replicas)) (echoPair replicas) where
  connected := rfl
  pool := by
    intro position node found
    rcases getElem?_echoPair.mp found with ⟨-, rfl⟩ | ⟨-, rfl⟩ <;> rfl
  listed := by
    intro url
    constructor
    · intro member
      simp only [echoes, List.mem_cons, List.not_mem_nil, or_false] at member
      rcases member with rfl | rfl
      · exact ⟨0, _, getElem?_echoPair.mpr (.inl ⟨rfl, rfl⟩), rfl⟩
      · exact ⟨1, _, getElem?_echoPair.mpr (.inr ⟨rfl, rfl⟩), rfl⟩
    · rintro ⟨position, node, found, rfl⟩
      rcases getElem?_echoPair.mp found with ⟨-, rfl⟩ | ⟨-, rfl⟩
      · exact List.mem_cons_self
      · exact List.mem_cons_of_mem _ List.mem_cons_self
  delivers := by
    intro position node key found
    obtain ⟨first, second⟩ := hosts_echoPair replicas
    have path : Url.isPlainPath "/_hint/".toList = true := by decide
    rcases getElem?_echoPair.mp found with ⟨rfl, rfl⟩ | ⟨rfl, rfl⟩
    · exact delivers_of_plain (by decide +kernel) path first "scores" key
    · exact delivers_of_plain (by decide +kernel) path second "scores" key
  groups := by
    intro position node found
    have registered : ∀ base, (echo replicas base).registry.get? "scores" = some 0 := by
      intro base
      have registry : (echo replicas base).registry = (echo 0 "").registry := rfl
      rw [registry]
      decide +kernel
    have housed : ∀ base, (echo replicas base).hosted =
        #[{ scores with group := { scores.group with hasPeers := true } }] := by
      intro base
      simp [echo, ClusterNode.registerPool, ClusterNode.add, ClusterNode.create, scores,
        Group.registerPeers, Group.create, Except.toOption]
    rcases getElem?_echoPair.mp found with ⟨-, rfl⟩ | ⟨-, rfl⟩
    all_goals
      refine ⟨0, _, ⟨found, by rw [housed]; rfl⟩, registered _, ?_⟩
      exact ⟨⟨{}, rfl⟩, fun _ _ => rfl, rfl⟩

/-- Each of the two nodes is asked for each of two keys. -/
theorem run_oneHop_echoPair :
    Agreed (echoes 50) (fun _ => Founded (echoes 50)) (echoPair 50) ∧
      (∀ get ∈ [(0, "Tom"), (1, "Tom"), (0, "Jack"), (1, "Jack")],
        get.1 < (echoPair 50).nodes.size) ∧
      ∃ results final, (echoPair 50).run "scores"
          [(0, "Tom"), (1, "Tom"), (0, "Jack"), (1, "Jack")] = .ok (results, final) ∧
        OneHop (echoes 50) final :=
  have inside : ∀ get ∈ [(0, "Tom"), (1, "Tom"), (0, "Jack"), (1, "Jack")],
      get.1 < (echoPair 50).nodes.size := by
    simp [show (echoPair 50).nodes.size = 2 from rfl]
  ⟨agreed_echoPair 50, inside, run_oneHop (agreed_echoPair 50) _ inside⟩

/-- Without replicas no key has an owner, and yet keys are stored. -/
theorem stored_without_owner : ¬ ∀ (arrangement : Arrangement) (cluster : Cluster),
    Agreed arrangement (fun _ => Founded arrangement) cluster →
    ∀ gets : List (Nat × String), (∀ get ∈ gets, get.1 < cluster.nodes.size) →
    ∀ results final, cluster.run arrangement.name gets = .ok (results, final) →
    ∀ position group node hosted key value, final.Houses position group node hosted →
      node.registry.get? arrangement.name = some group → hosted.group.peek key = some value →
      node.pool.ring.owner? key = some node.base := by
  intro owned
  have seen : ((echoPair 0).run "scores" [(0, "Tom")]).toOption.bind (fun outcome =>
      outcome.2.nodes[0]?.bind fun node => node.hosted[0]?.map fun hosted =>
        (node.registry.get? "scores", hosted.group.peek "Tom", node.pool.ring.owner? "Tom")) =
      some (some 0, some (Bytes.ofText "Tom"), none) := by
    decide +kernel
  obtain ⟨⟨results, final⟩, ran, seen⟩ := Option.bind_eq_some_iff.mp seen
  obtain ⟨node, found, seen⟩ := Option.bind_eq_some_iff.mp seen
  obtain ⟨hosted, housed, seen⟩ := Option.map_eq_some_iff.mp seen
  simp only [Prod.mk.injEq] at seen
  obtain ⟨registered, stored, unowned⟩ := seen
  have ran : (echoPair 0).run "scores" [(0, "Tom")] = .ok (results, final) := by
    revert ran
    cases (echoPair 0).run "scores" [(0, "Tom")] <;> simp [Except.toOption]
  have owns := owned (echoes 0) (echoPair 0) (agreed_echoPair 0) [(0, "Tom")]
    (by simp [show (echoPair 0).nodes.size = 2 from rfl]) results final ran 0 0 node hosted "Tom" _
    ⟨found, housed⟩ registered stored
  rw [unowned] at owns
  cases owns

end PeerCache.Cluster
