import PeerCache.Hash.Checksum
import PeerCache.Proofs.Ring.Listing

/-! # Confluence of memberships

Which peers are on a ring decides about the ring, unless positions of different peers collide. Among
peers that share no position, everybody who is on the ring owns all positions that it claims, also
those on which its own replicas meet. Nobody has ever taken one from somebody else, so nothing is
left of the order in which they came, or of those who left.
-/

namespace PeerCache.Ring

/-- The peers that a change of membership is about. -/
def Change.peers : Change → List String
  | .add peers => peers
  | .remove peer => [peer]

/-- No two peers share a position. The replicas of one peer may. -/
def Apart (hasher : Hasher) (replicas : Nat) (peers : Set String) : Prop :=
  peers.Pairwise fun peer other => ∀ first < replicas, ∀ second < replicas,
    hasher (Bytes.ofText (toString first ++ peer)) ≠
      hasher (Bytes.ofText (toString second ++ other))

/-- The present peers own all positions that they claim, and nobody owns any other. -/
def Settled (ring : Ring) (present : String → Prop) : Prop :=
  ∀ (seat : UInt32) peer, ring.owners[seat]? = some peer ↔ present peer ∧ seat ∈ ring.claims peer

section Steps

variable {ring : Ring} {present : String → Prop} {batch : List String} {peer : String}
  {seat : UInt32}

/-- A batch settles beside the present peers if no two of all of these claim one position. -/
theorem Settled.add (settled : ring.Settled present)
    (alone : ∀ peer other, peer ∈ batch ∨ present peer → other ∈ batch ∨ present other →
      ∀ seat ∈ ring.claims peer, seat ∈ ring.claims other → peer = other) :
    (ring.add batch).Settled fun peer => peer ∈ batch ∨ present peer := by
  intro seat peer
  rw [getElem?_add, (ring.alike_add batch).claims_eq]
  constructor
  · intro owns
    rcases Option.or_eq_some_iff.mp owns with kept | ⟨-, found⟩
    · obtain ⟨here, claims⟩ := (settled seat peer).mp kept
      exact ⟨.inr here, claims⟩
    · exact ⟨.inl (List.mem_of_find?_eq_some found), by simpa using List.find?_some found⟩
  · rintro ⟨here, claims⟩
    cases owned : ring.owners[seat]? with
    | some owner =>
      obtain ⟨here', claims'⟩ := (settled seat owner).mp owned
      rw [Option.some_or, alone owner peer (.inr here') here seat claims' claims]
    | none =>
      have fresh : peer ∈ batch := here.resolve_right fun before => by
        simp [(settled seat peer).mpr ⟨before, claims⟩] at owned
      rw [Option.none_or]
      exact find?_claims_of_alone fresh claims fun other member claims' =>
        alone other peer (.inl member) here seat claims' claims

/-- When a peer leaves, the others stay settled. -/
theorem Settled.remove (settled : ring.Settled present) (sound : ring.Sound) (leaver : String) :
    (ring.remove leaver).Settled fun peer => peer ≠ leaver ∧ present peer := by
  intro seat peer
  rw [sound.getElem?_remove, Option.filter_eq_some_iff, decide_eq_true_eq, settled,
    (ring.alike_remove leaver).claims_eq]
  tauto

end Steps

variable {hasher : Hasher} {replicas : Nat} {peers : Set String} {changes : List Change}
  {peer other : String} {seat : UInt32}

/-- Only one of the peers claims a position. -/
theorem Apart.eq_of_claims (apart : Apart hasher replicas peers) (member : peer ∈ peers)
    (member' : other ∈ peers) (claims : seat ∈ (empty hasher replicas).claims peer)
    (claims' : seat ∈ (empty hasher replicas).claims other) : peer = other := by
  obtain ⟨first, inside, placed⟩ := mem_claims_empty.mp claims
  obtain ⟨second, inside', placed'⟩ := mem_claims_empty.mp claims'
  by_contra different
  exact apart member member' different first inside second inside' (placed.trans placed'.symm)

/-- Who joined was placed by one of the changes. -/
theorem Joined.mem_peers (joined : Joined changes peer) :
    ∃ change ∈ changes, peer ∈ change.peers := by
  obtain ⟨earlier, batch, later, rfl, member, -⟩ := joined
  exact ⟨.add batch, by simp, member⟩

private theorem joined_add_iff {batch : List String} : Joined [.add batch] peer ↔ peer ∈ batch := by
  rw [← List.nil_append [Change.add batch], joined_concat_add]
  simp [Joined]

/-- After any changes among peers that share no position, those who have joined and not left are
settled. -/
theorem Apart.settled (apart : Apart hasher replicas peers)
    (among : ∀ change ∈ changes, ∀ peer ∈ change.peers, peer ∈ peers) :
    ((empty hasher replicas).run changes).Settled (Joined changes) := by
  induction changes using List.reverseRecOn with
  | nil => simp [Settled, run, empty, Joined]
  | append_singleton changes change ih =>
    have among' : ∀ change ∈ changes, ∀ peer ∈ change.peers, peer ∈ peers :=
      fun earlier member => among earlier (List.mem_append_left _ member)
    have settled := ih among'
    have alike := (empty hasher replicas).alike_run changes
    have sound := (sound_empty hasher replicas).run changes
    rw [run_concat]
    cases change with
    | add batch =>
      have known : ∀ peer, peer ∈ batch ∨ Joined changes peer → peer ∈ peers := by
        rintro peer (fresh | joined)
        · exact among (.add batch) (by simp) peer fresh
        · obtain ⟨earlier, member, named⟩ := joined.mem_peers
          exact among' earlier member peer named
      rw [show Joined (changes ++ [.add batch]) = _ from funext fun _ => propext joined_concat_add]
      refine settled.add fun peer other here here' seat claims claims' => ?_
      rw [alike.claims_eq] at claims claims'
      exact apart.eq_of_claims (known peer here) (known other here') claims claims'
    | remove leaver =>
      rw [show Joined (changes ++ [.remove leaver]) = _ from
        funext fun _ => propext joined_concat_remove]
      exact settled.remove sound leaver

/-- Among peers that share no position, whatever changes a ring has been through, it is the ring
freshly built from those who have joined and not left, in whatever order they are listed. -/
theorem run_eq_fresh (hasher : Hasher) (replicas : Nat) (peers : Set String)
    (apart : Apart hasher replicas peers) (changes : List Change)
    (among : ∀ change ∈ changes, ∀ peer ∈ change.peers, peer ∈ peers) (listing : List String)
    (present : ∀ peer, peer ∈ listing ↔ Joined changes peer) :
    (empty hasher replicas).run changes = (empty hasher replicas).add listing := by
  have among' : ∀ change ∈ [Change.add listing], ∀ peer ∈ change.peers, peer ∈ peers := by
    intro change fresh peer named
    obtain rfl := List.mem_singleton.mp fresh
    obtain ⟨earlier, member, named⟩ := ((present peer).mp named).mem_peers
    exact among earlier member peer named
  have sound := (sound_empty hasher replicas).run changes
  have sound' := (sound_empty hasher replicas).add listing
  have alike := ((empty hasher replicas).alike_run changes).trans
    ((empty hasher replicas).alike_add listing).symm
  refine sound.ext sound' alike fun seat => Option.ext fun peer => ?_
  have settled := apart.settled among seat peer
  have settled' := apart.settled among' seat peer
  rw [run, List.foldl_cons, List.foldl_nil, step, joined_add_iff, present,
    ← alike.claims_eq] at settled'
  exact settled.trans settled'.symm

/-- The replicas of each of these peers meet on one position, for their names are as long. -/
theorem run_eq_fresh_coinciding :
    Apart Checksum.length.hasher 2 {peer | peer ∈ ["ab", "abcd", "abcdef"]} ∧
      (empty Checksum.length.hasher 2).run [.add ["ab", "abcd"], .remove "ab",
          .add ["abcdef", "ab", "abcdef"], .remove "abcd"] =
        (empty Checksum.length.hasher 2).add ["abcdef", "ab"] := by
  have apart : Apart Checksum.length.hasher 2 {peer | peer ∈ ["ab", "abcd", "abcdef"]} := by
    have each : ∀ peer ∈ ["ab", "abcd", "abcdef"], ∀ other ∈ ["ab", "abcd", "abcdef"],
        peer ≠ other → ∀ first < 2, ∀ second < 2,
          Checksum.length.hasher (Bytes.ofText (toString first ++ peer)) ≠
            Checksum.length.hasher (Bytes.ofText (toString second ++ other)) := by
      decide +kernel
    exact fun peer member other member' => each peer member other member'
  refine ⟨apart, run_eq_fresh _ 2 _ apart _ (by simp [Change.peers]) _ fun peer => ?_⟩
  rw [show [Change.add ["ab", "abcd"], .remove "ab", .add ["abcdef", "ab", "abcdef"],
    .remove "abcd"] = [.add ["ab", "abcd"]] ++ [.remove "ab"] ++
      [.add ["abcdef", "ab", "abcdef"]] ++ [.remove "abcd"] from rfl,
    joined_concat_remove, joined_concat_add, joined_concat_remove, joined_add_iff]
  simp only [List.mem_cons, List.not_mem_nil, or_false]
  grind

end PeerCache.Ring
