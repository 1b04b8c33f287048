import PeerCache.Proofs.Pool.Picking

/-! # Pools that list their peers in different orders

Two pools that are set to the same peers have the same positions on their rings, in whatever orders
they list them. A position that only one of the peers claims belongs to that peer on both, but one
that several claim belongs to the one that is listed first. So the pools attribute a key to the same
owner if no claims meet on the position that serves it, and need not if they do.
-/

namespace PeerCache.Pool

/-- Whom a pool takes a key to belong to: the node itself if it picks nobody, and otherwise the peer
whose routes it picks. -/
inductive Attributes (pool : Pool) (key : String) : String → Prop
  | kept (nobody : pool.pick key = none) : Attributes pool key pool.this
  | sent (owner : String) (picked : pool.pick key = some (pool.routesOf owner)) :
      Attributes pool key owner

/-- How far two pools agree that are set to the same peers in different orders. -/
structure Concord (options : Options) (first second : Pool) (listing other : List String) :
    Prop where
  /-- Their rings have the same positions. -/
  positions : first.ring.positions = second.ring.positions
  /-- Some position serves a key on both, and each pool takes the key to belong to the peer that it
  lists first among those that claim the position. -/
  attributed : ∀ key, ∃ seat, Ring.Serves first.ring.positions (xxHash32 (Bytes.ofText key)) seat ∧
    ∀ owner, (first.Attributes key owner ↔
        Ring.firstClaimant? xxHash32 options.replicas listing seat = some owner) ∧
      (second.Attributes key owner ↔
        Ring.firstClaimant? xxHash32 options.replicas other seat = some owner)
  /-- So they agree on a key if no two of the peers claim the position that serves it. -/
  agreed : ∀ key seat, Ring.Serves first.ring.positions (xxHash32 (Bytes.ofText key)) seat →
    (∀ peer ∈ listing, ∀ rival ∈ listing,
      seat ∈ (Ring.empty xxHash32 options.replicas).claims peer →
      seat ∈ (Ring.empty xxHash32 options.replicas).claims rival → peer = rival) →
    ∃ owner, ∀ found, (first.Attributes key found ↔ found = owner) ∧
      (second.Attributes key found ↔ found = owner)

variable {pool : Pool} {listing other : List String} {key owner : String} {seat : UInt32}
  {options : Options}

private theorem Knows.attributes_iff (knows : pool.Knows listing) (listed : listing ≠ [])
    (positive : 0 < pool.options.replicas) :
    pool.Attributes key owner ↔ pool.ring.owner? key = some owner := by
  constructor
  · rintro (nobody | ⟨_, picked⟩)
    · exact knows.owner_of_kept listed positive nobody
    · obtain ⟨peer, -, -, owns, named⟩ := knows.picked picked
      rw [owns, routesOf_inj.mp named]
  · intro owns
    by_cases same : owner = pool.this
    · subst same
      exact .kept ((knows.candid.kept key).mpr (.inr owns))
    · refine .sent owner ?_
      rw [knows.pick_eq, owns, Option.bind_some, if_neg same]

/-- A pool attributes a key to the peer that it lists first among those that claim the position
which serves the key. -/
theorem Knows.attributes_iff_firstClaimant (knows : pool.Knows listing) (listed : listing ≠ [])
    (positive : 0 < pool.options.replicas)
    (serves : Ring.Serves pool.ring.positions (xxHash32 (Bytes.ofText key)) seat) :
    pool.Attributes key owner ↔
      Ring.firstClaimant? xxHash32 pool.options.replicas listing seat = some owner := by
  rw [knows.attributes_iff listed positive]
  rw [knows.ring] at serves ⊢
  rw [Ring.owner?_ofListing_eq_some_iff]
  constructor
  · rintro ⟨other, serves', first⟩
    rwa [serves.unique serves']
  · intro first
    exact ⟨seat, serves, first⟩

/-- Pools that are set to the same peers agree about a key, in whatever orders they list them,
unless several of the peers claim the position that serves it. -/
theorem set_concord (first second : Pool) (alike : first.options = second.options)
    (positive : 0 < first.options.replicas) (listing other : List String)
    (same : ∀ peer, peer ∈ listing ↔ peer ∈ other) (here : first.this ∈ listing)
    (there : second.this ∈ other) :
    Concord first.options (first.set listing) (second.set other) listing other := by
  have knows := knows_set first listing
  have knows' := knows_set second other
  have positions : (first.set listing).ring.positions = (second.set other).ring.positions := by
    rw [knows.ring, knows'.ring]
    change (Ring.ofListing xxHash32 first.options.replicas listing).positions =
      (Ring.ofListing xxHash32 second.options.replicas other).positions
    rw [← alike]
    exact Ring.positions_ofListing_eq same
  have attributed : ∀ key seat,
      Ring.Serves (first.set listing).ring.positions (xxHash32 (Bytes.ofText key)) seat →
      ∀ owner, ((first.set listing).Attributes key owner ↔
          Ring.firstClaimant? xxHash32 first.options.replicas listing seat = some owner) ∧
        ((second.set other).Attributes key owner ↔
          Ring.firstClaimant? xxHash32 first.options.replicas other seat = some owner) := by
    intro key seat serves owner
    refine ⟨knows.attributes_iff_firstClaimant (List.ne_nil_of_mem here) positive serves, ?_⟩
    rw [alike]
    refine knows'.attributes_iff_firstClaimant (List.ne_nil_of_mem there) ?_ (positions ▸ serves)
    exact alike ▸ positive
  refine ⟨positions, fun key => ?_, fun key seat serves alone => ?_⟩
  · obtain ⟨peer, owns⟩ : ∃ peer, (first.set listing).ring.owner? key = some peer :=
      Ring.exists_owner?_ofListing (List.ne_nil_of_mem here) positive key
    obtain ⟨seat, serves, -⟩ := Ring.owner?_ofListing_eq_some_iff.mp owns
    exact ⟨seat, serves, attributed key seat serves⟩
  · -- somebody claims the position, and whoever does is first in either order
    have listed := serves.listed
    rw [knows.ring] at listed
    obtain ⟨peer, member, claims⟩ := Ring.mem_positions_ofListing.mp listed
    have first_first :
        Ring.firstClaimant? xxHash32 first.options.replicas listing seat = some peer :=
      Ring.find?_claims_of_alone member claims fun rival member' claims' =>
        alone rival member' peer member claims' claims
    have first_second :
        Ring.firstClaimant? xxHash32 first.options.replicas other seat = some peer :=
      Ring.find?_claims_of_alone ((same peer).mp member) claims fun rival member' claims' =>
        alone rival ((same rival).mpr member') peer member claims' claims
    refine ⟨peer, fun found => ?_⟩
    obtain ⟨here, there⟩ := attributed key seat serves found
    rw [here, there, first_first, first_second, Option.some_inj, eq_comm]
    exact ⟨Iff.rfl, Iff.rfl⟩

/-- Two nodes that list each other in different orders. -/
theorem set_concord_swapped :
    (∀ peer, peer ∈ ["http://localhost:2300", "http://localhost:2473"] ↔
      peer ∈ ["http://localhost:2473", "http://localhost:2300"]) ∧
    Concord {} ((create "http://localhost:2300" {}).set
        ["http://localhost:2300", "http://localhost:2473"])
      ((create "http://localhost:2473" {}).set ["http://localhost:2473", "http://localhost:2300"])
      ["http://localhost:2300", "http://localhost:2473"]
      ["http://localhost:2473", "http://localhost:2300"] := by
  have same : ∀ peer, peer ∈ ["http://localhost:2300", "http://localhost:2473"] ↔
      peer ∈ ["http://localhost:2473", "http://localhost:2300"] := by
    simp [or_comm]
  exact ⟨same, set_concord (create "http://localhost:2300" {}) (create "http://localhost:2473" {})
    rfl (by decide) _ _ same (by simp [create]) (by simp [create])⟩

/-- On the ring of these two peers, replica 32 of one meets replica 1 of the other, and the position
on which they meet serves this key. -/
private theorem serves_meeting : Ring.Serves
    (Ring.ofListing xxHash32 50 ["http://localhost:2300", "http://localhost:2473"]).positions
    (xxHash32 (Bytes.ofText "key2534")) 2872696021 := by
  have claimed : ∀ peer ∈ ["http://localhost:2300", "http://localhost:2473"],
      ∀ replica < 50, xxHash32 (Bytes.ofText "key2534") ≤
        xxHash32 (Bytes.ofText (toString replica ++ peer)) →
      2872696021 ≤ xxHash32 (Bytes.ofText (toString replica ++ peer)) := by
    decide +kernel
  refine .ahead ?_ (by decide +kernel) fun seat listed => ?_
  · refine Ring.mem_positions_ofListing.mpr ⟨"http://localhost:2473", by decide, ?_⟩
    exact Ring.mem_claims_empty.mpr ⟨1, by decide, by decide +kernel⟩
  · obtain ⟨peer, member, claims⟩ := Ring.mem_positions_ofListing.mp listed
    obtain ⟨replica, inside, rfl⟩ := Ring.mem_claims_empty.mp claims
    exact claimed peer member replica inside

/-- Pools that are set to the same peers in different orders need not agree about every key: each of
these two nodes takes the key to be its own. -/
theorem orders_disagree : ¬ ∀ (first second : Pool) (listing other : List String),
    first.options = second.options → 0 < first.options.replicas →
    (∀ peer, peer ∈ listing ↔ peer ∈ other) → first.this ∈ listing → second.this ∈ other →
    ∀ key, ∃ owner, (first.set listing).Attributes key owner ∧
      (second.set other).Attributes key owner := by
  intro agree
  have same : ∀ peer, peer ∈ ["http://localhost:2300", "http://localhost:2473"] ↔
      peer ∈ ["http://localhost:2473", "http://localhost:2300"] := by
    simp [or_comm]
  obtain ⟨owner, own, own'⟩ := agree (create "http://localhost:2300" {})
    (create "http://localhost:2473" {}) _ _ rfl (by decide) same (by simp [create])
    (by simp [create]) "key2534"
  have serves' := serves_meeting
  rw [Ring.positions_ofListing_eq same] at serves'
  have claims : (2872696021 : UInt32) ∈
      (Ring.empty xxHash32 50).claims "http://localhost:2300" :=
    Ring.mem_claims_empty.mpr ⟨32, by decide, by decide +kernel⟩
  have claims' : (2872696021 : UInt32) ∈
      (Ring.empty xxHash32 50).claims "http://localhost:2473" :=
    Ring.mem_claims_empty.mpr ⟨1, by decide, by decide +kernel⟩
  have knows := knows_set (create "http://localhost:2300" {})
    ["http://localhost:2300", "http://localhost:2473"]
  have knows' := knows_set (create "http://localhost:2473" {})
    ["http://localhost:2473", "http://localhost:2300"]
  have first := (knows.attributes_iff_firstClaimant (by simp) (by decide)
    (by rw [knows.ring]; exact serves_meeting)).mp own
  have second := (knows'.attributes_iff_firstClaimant (by simp) (by decide)
    (by rw [knows'.ring]; exact serves')).mp own'
  have owner_first : "http://localhost:2300" = owner :=
    Option.some.inj ((Ring.firstClaimant?_cons claims).symm.trans first)
  have owner_second : "http://localhost:2473" = owner :=
    Option.some.inj ((Ring.firstClaimant?_cons claims').symm.trans second)
  exact absurd (owner_first.trans owner_second.symm) (by decide)

end PeerCache.Pool
