import PeerCache.Proofs.Eviction.Precedence

/-! # Draining a heap

A heap that is popped until nothing is left gives up its keys in the order of their ranks. If no two
entries rank alike there is only one such order, and it is the one in which the keys are listed
without taking any of them out.
-/

namespace PeerCache.Eviction.FrequencyHeap

/-- The keys that leave a heap one after another until nothing is left. -/
inductive Drains : FrequencyHeap → List String → Prop
  | done {heap : FrequencyHeap} (nothing : heap.pop = .ok none) : Drains heap []
  | next {heap after : FrequencyHeap} {key : String} {rest : List String}
      (popped : heap.pop = .ok (some (key, after))) (later : Drains after rest) :
      Drains heap (key :: rest)

/-- No two entries rank alike. -/
def Distinct (heap : FrequencyHeap) : Prop :=
  ∀ slot slot' standing standing', heap.standing? slot = some standing →
    heap.standing? slot' = some standing' → standing.rank = standing'.rank → slot = slot'

/-- The standings of all entries. -/
def standings (heap : FrequencyHeap) : List (Option Standing) :=
  heap.heap.toList.map heap.standing?

variable {heap after : FrequencyHeap} {slot : Nat} {standing : Standing} {entries : List Standing}

private theorem Layout.mem_standings (layout : heap.Layout) :
    some standing ∈ heap.standings ↔ ∃ slot, heap.standing? slot = some standing := by
  rw [standings, List.mem_map]
  refine exists_congr fun slot => ?_
  rw [Array.mem_toList_iff, layout.mem_iff, and_iff_right_iff_imp]
  rintro stands
  rw [stands]
  exact Option.some_ne_none standing

private theorem Layout.standings_vacate (layout : heap.Layout) (layout' : after.Layout)
    (stands : heap.standing? slot = some standing)
    (content : after.standing? = Function.update heap.standing? slot none) :
    heap.standings.Perm (some standing :: after.standings) := by
  have outside : slot ∉ after.heap.toList := by
    rw [Array.mem_toList_iff, layout'.mem_iff, content, Function.update_self]
    exact not_not_intro rfl
  have slots : heap.heap.toList.Perm (slot :: after.heap.toList) := by
    refine (List.perm_ext_iff_of_nodup layout.nodup
      (List.nodup_cons.mpr ⟨outside, layout'.nodup⟩)).mpr fun other => ?_
    rw [List.mem_cons, Array.mem_toList_iff, Array.mem_toList_iff, layout.mem_iff, layout'.mem_iff,
      content]
    by_cases same : other = slot
    · simp [same, stands]
    · simp [same]
  have kept : after.heap.toList.map heap.standing? = after.standings := by
    refine List.map_congr_left fun other member => ?_
    rw [content, Function.update_of_ne (ne_of_mem_of_not_mem member outside)]
  rw [standings, ← stands, ← kept]
  exact slots.map heap.standing?

theorem exists_drains (layout : heap.Layout) (ordered : heap.Ordered) :
    ∃ entries : List Standing, Drains heap (entries.map Standing.key) ∧
      heap.standings.Perm (entries.map some) ∧
      entries.Pairwise fun first second => first.rank ≤ second.rank := by
  induction size : heap.standings.length generalizing heap with
  | zero =>
    have empty := List.eq_nil_of_length_eq_zero size
    rcases ordered.pop_cases layout with ⟨nothing, -⟩ | ⟨slot, standing, -, -, -, -, stands, -⟩
    · exact ⟨[], .done nothing, by simp [empty], .nil⟩
    · have member := layout.mem_standings.mpr ⟨slot, stands⟩
      simp [empty] at member
  | succ size' ih =>
    rcases ordered.pop_cases layout with ⟨nothing, vacant⟩ |
      ⟨slot, standing, after, popped, layout', ordered', stands, content, -, first⟩
    · obtain ⟨found, member⟩ :=
        List.exists_mem_of_length_pos (show 0 < heap.standings.length by omega)
      obtain ⟨slot, inHeap, rfl⟩ := List.mem_map.mp member
      exact absurd (vacant slot) (layout.mem_iff.mp (Array.mem_toList_iff.mp inHeap))
    · have less := layout.standings_vacate layout' stands content
      have smaller : after.standings.length = size' := by
        have longer := less.length_eq
        rw [List.length_cons] at longer
        omega
      obtain ⟨entries, drains, same, inOrder⟩ := ih layout' ordered' smaller
      refine ⟨standing :: entries, .next popped drains, less.trans (same.cons _),
        List.pairwise_cons.mpr ⟨fun other later => ?_, inOrder⟩⟩
      have remains : some other ∈ after.standings :=
        same.mem_iff.mpr (List.mem_map_of_mem (f := some) later)
      obtain ⟨slot', stands'⟩ :=
        layout.mem_standings.mp (less.mem_iff.mpr (List.mem_cons_of_mem _ remains))
      exact first slot' other stands'

/-- The keys are listed in the order in which they are going to leave. -/
theorem sorted_drains (layout : heap.Layout) (ordered : heap.Ordered) (distinct : heap.Distinct) :
    ∃ keys, heap.sorted = .ok keys ∧ Drains heap keys := by
  obtain ⟨entries, drains, same, inOrder⟩ := exists_drains layout ordered
  obtain ⟨ranked, listed, same'⟩ := ranking_ok layout
  have inOrder' : (ranked.map Ranked.standing).Pairwise fun first second =>
      first.rank ≤ second.rank := by
    rw [List.pairwise_map]
    exact (ranking_pairwise listed).imp fun sooner =>
      Standing.rank_le_iff.mpr (notAfter_iff.mp sooner)
  have rearranged : (ranked.map Ranked.standing).Perm entries := by
    refine (List.map_perm_map_iff (Option.some_injective _)).mp ?_
    rw [List.map_map]
    exact same'.symm.trans same
  have equal : ranked.map Ranked.standing = entries := by
    refine rearranged.eq_of_pairwise ?_ inOrder' inOrder
    intro first second member member' sooner later
    have inHeap : ∀ standing ∈ entries, ∃ slot, heap.standing? slot = some standing :=
      fun standing member =>
        layout.mem_standings.mp (same.mem_iff.mpr (List.mem_map_of_mem (f := some) member))
    obtain ⟨slot, stands⟩ := inHeap first (rearranged.mem_iff.mp member)
    obtain ⟨slot', stands'⟩ := inHeap second member'
    obtain rfl := distinct slot slot' first second stands stands' (le_antisymm sooner later)
    exact Option.some.inj (stands.symm.trans stands')
  refine ⟨entries.map Standing.key, ?_, drains⟩
  rw [sorted, listed, ← equal, List.map_map]
  rfl

end PeerCache.Eviction.FrequencyHeap
