import PeerCache.Pool
import PeerCache.Proofs.Ring.Listing

/-! # Picking the owner of a key

A pool keeps a ring and, apart from it, the routes of the peers. Both are made from one list
whenever the peers are set, so that a peer which the ring names has routes. As the ring does not
depend on the node whose pool it is, the pools of all listed nodes name the same owner for a key,
and only the owner itself does not send the key away.
-/

namespace PeerCache.Pool

/-- Set the peers of a pool to one list after the other. -/
def setAll (pool : Pool) (lists : List (List String)) : Pool := lists.foldl set pool

/-- The ring and the routes of a pool are those of a list of peers. -/
structure Knows (pool : Pool) (listing : List String) : Prop where
  ring : pool.ring = .ofListing xxHash32 pool.options.replicas listing
  getters : ∀ peer : String, pool.getters[peer]? =
    if peer ∈ listing then some (pool.routesOf peer) else none

/-- What it means for a pool that its picks can be relied on. -/
structure Candid (pool : Pool) : Prop where
  /-- It never sends a key to the node itself. -/
  foreign : ∀ key, pool.pick key ≠ some (pool.routesOf pool.this)
  /-- It picks nobody only if there are no peers, or if the key is the node's own. -/
  kept : ∀ key, pool.pick key = none ↔
    pool.ring.isEmpty = true ∨ pool.ring.owner? key = some pool.this
  /-- A peer that the ring names has routes. -/
  reached : ∀ key peer, pool.ring.owner? key = some peer →
    pool.getters[peer]? = some (pool.routesOf peer)

variable {pool : Pool} {listing : List String} {key peer : String}

/-! ## Setting the peers -/

theorem setAll_concat (pool : Pool) (lists : List (List String)) (listing : List String) :
    pool.setAll (lists ++ [listing]) = (pool.setAll lists).set listing := by
  rw [setAll, List.foldl_append]
  rfl

theorem identity_setAll (pool : Pool) (lists : List (List String)) :
    (pool.setAll lists).this = pool.this ∧ (pool.setAll lists).options = pool.options := by
  induction lists using List.reverseRecOn with
  | nil => exact ⟨rfl, rfl⟩
  | append_singleton lists listing ih =>
    rw [setAll_concat]
    exact ih

theorem knows_create (this : String) (options : Options) : (create this options).Knows [] where
  ring := Ring.ofListing_nil.symm
  getters := by simp [create]

private theorem getElem?_foldl_insert (routes : String → String) (listing : List String)
    (peer : String) :
    (listing.foldl (fun getters peer => getters.insert peer (routes peer))
      (∅ : Std.ExtTreeMap String String))[peer]? =
      if peer ∈ listing then some (routes peer) else none := by
  induction listing using List.reverseRecOn with
  | nil => simp
  | append_singleton earlier last ih =>
    rw [List.foldl_append, List.foldl_cons, List.foldl_nil, Std.ExtTreeMap.getElem?_insert, ih]
    by_cases same : last = peer
    · simp [same]
    · simp [same, Ne.symm same]

theorem knows_set (pool : Pool) (listing : List String) : (pool.set listing).Knows listing where
  ring := rfl
  getters := getElem?_foldl_insert pool.routesOf listing

private theorem exists_knows (this : String) (options : Options) (lists : List (List String)) :
    ∃ listing, ((create this options).setAll lists).Knows listing := by
  rcases List.eq_nil_or_concat' lists with rfl | ⟨lists, listing, rfl⟩
  · exact ⟨[], knows_create this options⟩
  · exact ⟨listing, setAll_concat _ lists listing ▸ knows_set _ listing⟩

/-! ## Picking -/

theorem routesOf_inj {other : String} : pool.routesOf peer = pool.routesOf other ↔ peer = other :=
  String.append_left_inj _

private theorem Knows.getter (knows : pool.Knows listing)
    (owns : pool.ring.owner? key = some peer) :
    pool.getters[peer]? = some (pool.routesOf peer) := by
  rw [knows.ring] at owns
  rw [knows.getters, if_pos (Ring.mem_of_owner?_ofListing owns)]

theorem Knows.pick_eq (knows : pool.Knows listing) (key : String) :
    pool.pick key = (pool.ring.owner? key).bind fun peer =>
      if peer = pool.this then none else some (pool.routesOf peer) := by
  unfold pick
  cases owns : pool.ring.owner? key with
  | none => rfl
  | some peer => simp [knows.getter owns]

theorem Knows.candid (knows : pool.Knows listing) : pool.Candid where
  foreign := by
    intro key picked
    rw [knows.pick_eq, Option.bind_eq_some_iff] at picked
    obtain ⟨peer, -, named⟩ := picked
    split at named
    · cases named
    · next different => exact different (routesOf_inj.mp (Option.some.inj named))
  kept := by
    intro key
    have sound := Ring.sound_ofListing xxHash32 pool.options.replicas listing
    rw [knows.pick_eq, Ring.isEmpty, List.isEmpty_iff, knows.ring, ← sound.owner?_eq_none_iff]
    cases owns : (Ring.ofListing xxHash32 pool.options.replicas listing).owner? key with
    | none => simp
    | some peer => by_cases same : peer = pool.this <;> simp [same]
  reached _ _ owns := knows.getter owns

/-- Whoever a pool picks is another listed peer, which the ring names. -/
theorem Knows.picked (knows : pool.Knows listing) {routes : String}
    (picked : pool.pick key = some routes) :
    ∃ owner ∈ listing, owner ≠ pool.this ∧ pool.ring.owner? key = some owner ∧
      routes = pool.routesOf owner := by
  rw [knows.pick_eq, Option.bind_eq_some_iff] at picked
  obtain ⟨owner, owns, named⟩ := picked
  split at named
  · cases named
  · next different =>
    refine ⟨owner, ?_, different, owns, (Option.some.inj named).symm⟩
    rw [knows.ring] at owns
    exact Ring.mem_of_owner?_ofListing owns

/-- Where there are peers with replicas, a pool picks nobody only for the keys of its own node. -/
theorem Knows.owner_of_kept (knows : pool.Knows listing) (listed : listing ≠ [])
    (positive : 0 < pool.options.replicas) (kept : pool.pick key = none) :
    pool.ring.owner? key = some pool.this := by
  obtain ⟨owner, owns⟩ : ∃ owner, pool.ring.owner? key = some owner :=
    knows.ring ▸ Ring.exists_owner?_ofListing listed positive key
  rw [knows.pick_eq, owns, Option.bind_some] at kept
  split at kept
  · next same => rw [owns, same]
  · cases kept

/-- Of the pools of all listed nodes, exactly one keeps a key, and the others send it to that
one. -/
theorem setAll_one_owner (options : Options) :
    (∀ this lists, ((create this options).setAll lists).Candid) ∧
      ∀ listing : List String, listing ≠ [] → 0 < options.replicas →
        ∀ (before : String → List (List String)) (key : String), ∃ owner ∈ listing,
          ∀ url ∈ listing, ((create url options).setAll (before url ++ [listing])).pick key =
            if url = owner then none else some (owner ++ options.basePath) := by
  constructor
  · intro this lists
    obtain ⟨listing, knows⟩ := exists_knows this options lists
    exact knows.candid
  · intro listing nonempty positive before key
    obtain ⟨owner, owns⟩ :
        ∃ owner, (Ring.ofListing xxHash32 options.replicas listing).owner? key = some owner :=
      Ring.exists_owner?_ofListing nonempty positive key
    refine ⟨owner, Ring.mem_of_owner?_ofListing owns, fun url _ => ?_⟩
    obtain ⟨this, same⟩ := identity_setAll (create url options) (before url ++ [listing])
    have knows : ((create url options).setAll (before url ++ [listing])).Knows listing := by
      rw [setAll_concat]
      exact knows_set _ listing
    simp only [knows.pick_eq, knows.ring, routesOf, this, same]
    simp only [create, owns, Option.bind_some, eq_comm]

/-- A node that is listed twice still keeps its keys alone, whatever lists came before. -/
theorem setAll_one_owner_repeated :
    ["http://localhost:8001", "http://localhost:8002", "http://localhost:8001"] ≠ [] ∧
      0 < Options.replicas {} ∧
      ∃ owner ∈ ["http://localhost:8001", "http://localhost:8002", "http://localhost:8001"],
        ∀ url ∈ ["http://localhost:8001", "http://localhost:8002", "http://localhost:8001"],
          ((create url {}).setAll ([[], [url, "http://localhost:8003"]] ++
            [["http://localhost:8001", "http://localhost:8002", "http://localhost:8001"]])).pick
              "Tom" = if url = owner then none else some (owner ++ "/_hint/") :=
  ⟨by decide, by decide,
    (setAll_one_owner {}).2 _ (by decide) (by decide)
      (fun url => [[], [url, "http://localhost:8003"]]) "Tom"⟩

end PeerCache.Pool
