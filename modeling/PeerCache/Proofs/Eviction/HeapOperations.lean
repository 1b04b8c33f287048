import PeerCache.Proofs.Eviction.HeapLayout

/-! # Operations on frequency heaps

The layout of a heap is all that its operations rely on. From this alone none of them faults, and
insertion, touch and removal change the standing of one slot.
-/

namespace PeerCache.Eviction.FrequencyHeap

theorem standing?_ne_none_iff {heap : FrequencyHeap} {slot : Nat} :
    heap.standing? slot ≠ none ↔ heap.arena.get? slot ≠ none := by
  simp [standing?]

/-- The slots in a laid out heap are those that have a standing. -/
theorem Layout.mem_iff {heap : FrequencyHeap} (layout : heap.Layout) {slot : Nat} :
    slot ∈ heap.heap ↔ heap.standing? slot ≠ none := by
  rw [standing?_ne_none_iff]
  refine ⟨fun member => ?_, layout.seated slot⟩
  obtain ⟨position, here⟩ := Array.mem_iff_getElem?.mp member
  obtain ⟨entry, found, -⟩ := layout.placed position slot here
  simp [found]

/-- Rearranging a laid out heap, or one in which only standings were changed, lays it out again. -/
private theorem Placed.layout {heap after : FrequencyHeap} (placed : after.Placed)
    (rearranges : heap.Rearranges after)
    (seated : ∀ slot, heap.arena.get? slot ≠ none → slot ∈ heap.heap) : after.Layout where
  toPlaced := placed
  seated := by
    intro slot full
    rw [← standing?_ne_none_iff, rearranges.standing, standing?_ne_none_iff] at full
    exact (rearranges.members slot).mpr (seated slot full)

theorem layout_empty : FrequencyHeap.empty.Layout where
  tidy := Arena.tidy_empty
  placed := by intro position slot here; simp [empty] at here
  seated := by intro slot full; exact absurd (Arena.get?_empty slot) full

theorem map_update {β γ : Type} (look : Nat → Option β) (slot : Nat) (content : Option β)
    (f : β → γ) (other : Nat) :
    (Function.update look slot content other).map f =
      Function.update (fun slot => (look slot).map f) slot (content.map f) other := by
  by_cases same : other = slot
  · subst same
    simp
  · simp [Function.update_of_ne same]

theorem Layout.placed_push {heap : FrequencyHeap} (layout : heap.Layout) {slot : Nat}
    {entry : Ranked} (last : entry.position = heap.size) {arena : Arena Ranked}
    (tidy : arena.Tidy) (vacant : heap.arena.get? slot = none)
    (content : arena.get? = Function.update heap.arena.get? slot (some entry)) (clock : Nat) :
    Placed ⟨heap.heap.push slot, arena, clock⟩ := by
  refine ⟨tidy, ?_⟩
  intro position other here
  simp only [content, Array.getElem?_push] at here ⊢
  by_cases isLast : position = heap.heap.size
  · rw [if_pos isLast, Option.some.injEq] at here
    exact ⟨_, by rw [← here, Function.update_self], last.trans isLast.symm⟩
  · rw [if_neg isLast] at here
    obtain ⟨entry, found, same⟩ := layout.placed position other here
    have distinct : other ≠ slot := by rintro rfl; simp [vacant] at found
    exact ⟨entry, by rw [Function.update_of_ne distinct, found], same⟩

theorem Layout.placed_modify {heap : FrequencyHeap} (layout : heap.Layout) {slot : Nat}
    {entry changed : Ranked} (found : heap.arena.get? slot = some entry)
    (same : changed.position = entry.position) {arena : Arena Ranked} (tidy : arena.Tidy)
    (content : arena.get? = Function.update heap.arena.get? slot (some changed)) (clock : Nat) :
    Placed ⟨heap.heap, arena, clock⟩ := by
  refine ⟨tidy, ?_⟩
  intro position other here
  obtain ⟨entry', found', same'⟩ := layout.placed position other here
  simp only [content]
  by_cases touched : other = slot
  · subst touched
    rw [found, Option.some.injEq] at found'
    exact ⟨_, Function.update_self .., by rw [same, found', same']⟩
  · exact ⟨entry', by rw [Function.update_of_ne touched, found'], same'⟩

/-- Inserting a key gives it frequency one, the next time, and a slot that was vacant. -/
theorem push_ok {heap : FrequencyHeap} (layout : heap.Layout) (key : String) :
    ∃ slot after, heap.push key = .ok (slot, after) ∧ after.Layout ∧
      heap.standing? slot = none ∧
      after.standing? = Function.update heap.standing? slot (some ⟨key, 1, heap.clock + 1⟩) ∧
      after.clock = heap.clock + 1 := by
  obtain ⟨slot, arena, inserted, tidy, vacant, content⟩ := Arena.insert_ok layout.tidy
    { key, frequency := 1, touched := heap.clock + 1, position := heap.size }
  let larger : FrequencyHeap := ⟨heap.heap.push slot, arena, heap.clock + 1⟩
  have placed : larger.Placed := layout.placed_push rfl tidy vacant content _
  have below : heap.size < larger.size := by simp [larger, size]
  obtain ⟨moved, after, sifted, placed', rearranges⟩ := siftUp_ok placed below
  refine ⟨slot, after, ?_, placed'.layout rearranges ?_, ?_, ?_, rearranges.clock⟩
  · simp only [push, inserted, bind, Except.bind, pure, Except.pure]
    rw [show heap.heap.push slot = larger.heap from rfl, sifted]
  · intro other full
    simp only [larger, content] at full
    by_cases same : other = slot
    · exact same ▸ Array.mem_push_self
    · rw [Function.update_of_ne same] at full
      exact Array.mem_push_of_mem slot (layout.seated other full)
  · simp [standing?, vacant]
  · rw [rearranges.standing]
    funext other
    simp only [standing?, larger, content, map_update]
    rfl

/-- Touching the entry in a slot raises its frequency and gives it the next time. -/
theorem bump_ok {heap : FrequencyHeap} (layout : heap.Layout) {slot : Nat} {standing : Standing}
    (stands : heap.standing? slot = some standing) :
    ∃ after, heap.bump slot = .ok after ∧ after.Layout ∧
      after.standing? = Function.update heap.standing? slot
        (some ⟨standing.key, standing.frequency + 1, heap.clock + 1⟩) ∧
      after.clock = heap.clock + 1 := by
  obtain ⟨entry, found, rfl⟩ := Option.map_eq_some_iff.mp stands
  obtain ⟨arena, modified, tidy, content⟩ := Arena.modify_ok layout.tidy found
    fun entry => { entry with frequency := entry.frequency + 1, touched := heap.clock + 1 }
  let raised : FrequencyHeap := ⟨heap.heap, arena, heap.clock + 1⟩
  have placed : raised.Placed := by
    refine layout.placed_modify found ?_ tidy content _
    rfl
  have member := layout.seated slot (by simp [found])
  have below : entry.position < raised.size := lt_size_of_slot (layout.position_eq member found)
  obtain ⟨after, restored, placed', rearranges⟩ := restore_ok placed below
  refine ⟨after, ?_, placed'.layout rearranges ?_, ?_, rearranges.clock⟩
  · have read : arena.read slot =
        .ok { entry with frequency := entry.frequency + 1, touched := heap.clock + 1 } := by
      rw [Arena.read_eq_ok_iff, content, Function.update_self]
    simp only [bump, modified, read, bind, Except.bind]
    exact restored
  · intro other full
    simp only [raised, content] at full ⊢
    by_cases touched : other = slot
    · exact touched ▸ member
    · rw [Function.update_of_ne touched] at full
      exact layout.seated other full
  · rw [rearranges.standing]
    funext other
    simp only [standing?, raised, content, map_update]
    rfl

/-- Moving the entry of a slot to the end of the heap and cutting that off takes the slot out. -/
theorem cut_ok {heap : FrequencyHeap} (layout : heap.Layout) {slot : Nat} {entry : Ranked}
    (found : heap.arena.get? slot = some entry) :
    ∃ swapped shorter, heap.swap entry.position (heap.size - 1) = .ok swapped ∧
      shorter = { swapped with heap := swapped.heap.pop } ∧ shorter.Placed ∧
      (∀ other, other ∈ shorter.heap ↔ other ∈ heap.heap ∧ other ≠ slot) ∧
      shorter.standing? = heap.standing? ∧ shorter.clock = heap.clock := by
  have here := layout.position_eq (layout.seated slot (by simp [found])) found
  have below : entry.position < heap.size := lt_size_of_slot here
  obtain ⟨swapped, exchanged, placed, rearranges, places⟩ :=
    swap_ok layout.toPlaced below (show heap.size - 1 < heap.size by omega)
  have atLast : swapped.heap[heap.size - 1]? = some slot := by
    rw [places, Equiv.swap_apply_right, here]
  have swappedSize : swapped.heap.size = heap.size := rearranges.size
  have popped (position other : Nat) : swapped.heap.pop[position]? = some other ↔
      swapped.heap[position]? = some other ∧ other ≠ slot := by
    rw [Array.getElem?_pop, swappedSize]
    by_cases last : position = heap.size - 1
    · rw [if_neg (by omega), last, atLast]
      simp only [reduceCtorEq, Option.some.injEq, false_iff, not_and, not_not]
      exact fun same => same.symm
    · by_cases inside : position < heap.size - 1
      · rw [if_pos inside, iff_self_and]
        rintro same rfl
        exact last (placed.injective same atLast)
      · rw [if_neg inside, Array.getElem?_eq_none (by omega)]
        simp
  refine ⟨swapped, _, exchanged, rfl, ⟨placed.tidy, ?_⟩, ?_, rearranges.standing,
    rearranges.clock⟩
  · intro position other same
    exact placed.placed position other ((popped position other).mp same).1
  · intro other
    rw [← rearranges.members]
    simp only [Array.mem_iff_getElem?, popped]
    exact exists_and_right

private theorem Placed.layout_vacate {heap : FrequencyHeap} (placed : heap.Placed) {slot : Nat}
    (members : ∀ other, other ∈ heap.heap ↔ heap.standing? other ≠ none ∧ other ≠ slot)
    {arena : Arena Ranked} (tidy : arena.Tidy)
    (content : arena.get? = Function.update heap.arena.get? slot none) :
    Layout { heap with arena } where
  tidy := tidy
  placed := by
    intro position other here
    obtain ⟨entry, found, same⟩ := placed.placed position other here
    have distinct := ((members other).mp (Array.mem_of_getElem? here)).2
    exact ⟨entry, by rw [content, Function.update_of_ne distinct, found], same⟩
  seated := by
    intro other full
    rw [content] at full
    by_cases vacated : other = slot
    · simp [vacated] at full
    · rw [Function.update_of_ne vacated, ← standing?_ne_none_iff] at full
      exact (members other).mpr ⟨full, vacated⟩

theorem release_ok {heap : FrequencyHeap} (layout : heap.Layout) {slot : Nat} {standing : Standing}
    (stands : heap.standing? slot = some standing) :
    ∃ after, heap.release slot = .ok (standing.key, after) ∧ after.Layout ∧
      after.standing? = Function.update heap.standing? slot none ∧ after.clock = heap.clock := by
  obtain ⟨entry, found, rfl⟩ := Option.map_eq_some_iff.mp stands
  obtain ⟨swapped, shorter, exchanged, shorter_eq, placed, members, standings, clock⟩ :=
    cut_ok layout found
  obtain ⟨restored, filled, placed', rearranges⟩ : ∃ restored,
      (if entry.position < shorter.size then shorter.restore entry.position else pure shorter) =
        .ok restored ∧ restored.Placed ∧ shorter.Rearranges restored := by
    by_cases inside : entry.position < shorter.size
    · rw [if_pos inside]
      exact restore_ok placed inside
    · rw [if_neg inside]
      exact ⟨shorter, rfl, placed, .refl shorter⟩
  rw [← rearranges.standing] at standings
  obtain ⟨entry', found', same⟩ :=
    Option.map_eq_some_iff.mp ((congrFun standings slot).trans stands)
  obtain ⟨arena, released, tidy, content⟩ := Arena.release_ok placed'.tidy found'
  have listed (other : Nat) :
      other ∈ restored.heap ↔ restored.standing? other ≠ none ∧ other ≠ slot := by
    rw [rearranges.members, members, layout.mem_iff, standings]
  refine ⟨{ restored with arena }, ?_, placed'.layout_vacate listed tidy content, ?_,
    rearranges.clock.trans clock⟩
  · have member := layout.seated slot (by simp [found])
    have occupied := Array.size_pos_of_mem member
    have subtracted : Checked.subtract heap.size 1 = .ok (heap.size - 1) := by
      rw [Checked.subtract_eq_ok_iff]
      exact Nat.sub_add_cancel occupied
    have sameKey : entry'.key = entry.standing.key := congrArg Standing.key same
    have read := Arena.read_eq_ok_iff.mpr found
    simp only [release, read, subtracted, exchanged, ← shorter_eq, bind, Except.bind]
    by_cases inside : entry.position < shorter.size
    · rw [if_pos inside] at filled ⊢
      simp [filled, released, sameKey, pure, Except.pure]
    · rw [if_neg inside] at filled ⊢
      cases filled
      simp [released, sameKey, pure, Except.pure]
  · funext other
    simp only [standing?, content, map_update]
    rw [← standings]
    rfl

theorem pop_ok {heap : FrequencyHeap} (layout : heap.Layout) :
    (heap.pop = .ok none ∧ ∀ slot, heap.standing? slot = none) ∨
      ∃ slot standing after, heap.pop = .ok (some (standing.key, after)) ∧ after.Layout ∧
        heap.standing? slot = some standing ∧
        after.standing? = Function.update heap.standing? slot none ∧ after.clock = heap.clock := by
  cases top : heap.heap[0]? with
  | none =>
    refine .inl ⟨by simp [pop, top], ?_⟩
    intro slot
    by_contra full
    have member := layout.seated slot (standing?_ne_none_iff.mp full)
    have bound : 0 < heap.heap.size := Array.size_pos_of_mem member
    rw [Array.getElem?_eq_getElem bound] at top
    cases top
  | some slot =>
    obtain ⟨entry, found, -⟩ := layout.placed 0 slot top
    have stands : heap.standing? slot = some entry.standing := by simp [standing?, found]
    obtain ⟨after, released, layout', content, clock⟩ := release_ok layout stands
    refine .inr ⟨slot, entry.standing, after, ?_, layout', stands, content, clock⟩
    simp [pop, top, released, bind, Except.bind, pure, Except.pure]

/-- The entries of a heap can be read in order, and every occupied slot is read once. -/
theorem ranking_ok {heap : FrequencyHeap} (layout : heap.Layout) :
    ∃ entries, heap.ranking = .ok entries ∧
      (heap.heap.toList.map heap.standing?).Perm (entries.map (some ∘ Ranked.standing)) := by
  have read : ∀ found : List Nat, (∀ slot ∈ found, slot ∈ heap.heap) →
      ∃ entries, found.mapM heap.arena.read = .ok entries ∧
        found.map heap.standing? = entries.map (some ∘ Ranked.standing) := by
    intro found members
    induction found with
    | nil => exact ⟨[], rfl, rfl⟩
    | cons slot rest ih =>
      obtain ⟨entries, listed, same⟩ := ih fun other member =>
        members other (List.mem_cons_of_mem _ member)
      obtain ⟨position, here⟩ := Array.mem_iff_getElem?.mp (members slot (List.mem_cons_self ..))
      obtain ⟨entry, found, -⟩ := layout.placed position slot here
      refine ⟨entry :: entries, ?_, ?_⟩
      · simp [List.mapM_cons, Arena.read_eq_ok_iff.mpr found, listed, bind, Except.bind, pure,
          Except.pure]
      · simp [same, standing?, found]
  obtain ⟨entries, listed, same⟩ := read heap.heap.toList fun slot member =>
    Array.mem_toList_iff.mp member
  refine ⟨entries.mergeSort Ranked.notAfter, ?_, ?_⟩
  · simp [ranking, listed, bind, Except.bind, pure, Except.pure]
  · rw [same]
    exact (List.mergeSort_perm _ _).symm.map _

end PeerCache.Eviction.FrequencyHeap
