import PeerCache.Proofs.Eviction.HeapOperations

/-! # The order of frequency heaps

In a heap no entry leaves after its children, so the entry at the top leaves first of all. While an
entry is sifted, this holds except where that entry is involved, and what is above it still leaves
before what is below it. Moving the entry up or down by one level moves the exception with it, until
it is gone. The ranks of positions are all that matters here, and positions beyond the heap rank
last.
-/

namespace PeerCache.Eviction

namespace Ranking

private theorem comp_swap_apply {γ : Type} (ranks : Nat → γ) (first second position : Nat) :
    (ranks ∘ Equiv.swap first second) position =
      if position = first then ranks second else if position = second then ranks first
      else ranks position := by
  rw [Function.comp_apply, Equiv.swap_apply_def]
  split_ifs <;> rfl

variable {γ : Type} [LinearOrder γ] {ranks : Nat → γ} {hole child position : Nat}

/-- No position ranks before its parent. -/
def Descends (ranks : Nat → γ) : Prop :=
  ∀ position, 0 < position → ranks ((position - 1) / 2) ≤ ranks position

/-- No position ranks before its parent, unless one of the two is the hole. The children of the hole
do not rank before its parent. -/
structure DescendsBut (ranks : Nat → γ) (hole : Nat) : Prop where
  beside : ∀ position, 0 < position → position ≠ hole → (position - 1) / 2 ≠ hole →
    ranks ((position - 1) / 2) ≤ ranks position
  across : ∀ position, 0 < position → (position - 1) / 2 = hole → 0 < hole →
    ranks ((hole - 1) / 2) ≤ ranks position

/-- The hole does not rank before its parent. -/
def UnderParent (ranks : Nat → γ) (hole : Nat) : Prop :=
  0 < hole → ranks ((hole - 1) / 2) ≤ ranks hole

/-- The hole does not rank after its children. -/
def OverChildren (ranks : Nat → γ) (hole : Nat) : Prop :=
  ∀ position, 0 < position → (position - 1) / 2 = hole → ranks hole ≤ ranks position

private theorem Descends.top_le (descends : Descends ranks) (position : Nat) :
    ranks 0 ≤ ranks position := by
  induction position using Nat.strong_induction_on with
  | h position ih =>
    rcases Nat.eq_zero_or_pos position with rfl | below
    · exact le_rfl
    · exact (ih _ (by omega)).trans (descends position below)

private theorem DescendsBut.descends (but : DescendsBut ranks hole) (under : UnderParent ranks hole)
    (covers : OverChildren ranks hole) : Descends ranks := by
  intro position below
  by_cases here : position = hole
  · subst here
    exact under below
  · by_cases parent : (position - 1) / 2 = hole
    · rw [parent]
      exact covers position below parent
    · exact but.beside position below here parent

private theorem Descends.truncate [OrderTop γ] (descends : Descends ranks) (bound : Nat) :
    Descends fun position => if position < bound then ranks position else ⊤ := by
  intro position below
  dsimp only
  split_ifs with parentInside inside
  · exact descends position below
  · exact le_top
  · omega
  · exact le_rfl

private theorem Descends.but (descends : Descends ranks) (hole : Nat) : DescendsBut ranks hole where
  beside position below _ _ := descends position below
  across position below parent above :=
    (descends hole above).trans (parent ▸ descends position below)

private theorem DescendsBut.congr {other : Nat → γ} (but : DescendsBut ranks hole)
    (same : ∀ position, position ≠ hole → other position = ranks position) :
    DescendsBut other hole where
  beside position below here parent := by
    rw [same _ here, same _ parent]
    exact but.beside position below here parent
  across position below parent above := by
    rw [same _ (by omega), same _ (by omega)]
    exact but.across position below parent above

/-- When a hole that ranks before its parent changes places with it, the hole is at the parent. -/
private theorem DescendsBut.raise (but : DescendsBut ranks hole) (above : 0 < hole)
    (before : ranks hole < ranks ((hole - 1) / 2)) :
    DescendsBut (ranks ∘ Equiv.swap hole ((hole - 1) / 2)) ((hole - 1) / 2) ∧
      OverChildren (ranks ∘ Equiv.swap hole ((hole - 1) / 2)) ((hole - 1) / 2) := by
  obtain ⟨parent, isParent⟩ : ∃ parent, parent = (hole - 1) / 2 := ⟨_, rfl⟩
  rw [← isParent] at before ⊢
  have smaller : parent < hole := by omega
  have siblings (position : Nat) (below : 0 < position) (other : position ≠ hole)
      (sibling : (position - 1) / 2 = parent) : ranks parent ≤ ranks position :=
    sibling ▸ but.beside position below other (by omega)
  refine ⟨⟨?_, ?_⟩, ?_⟩
  · intro position below here elsewhere
    simp only [comp_swap_apply, if_neg here, if_neg elsewhere]
    have notHole : position ≠ hole := by
      rintro rfl
      exact elsewhere isParent.symm
    rw [if_neg notHole]
    split_ifs with child
    · -- the old parent came down to where the hole was
      rw [isParent]
      exact but.across position below child above
    · exact but.beside position below notHole child
  · intro position below child above'
    have upper : ranks ((parent - 1) / 2) ≤ ranks parent :=
      but.beside parent above' (by omega) (by omega)
    simp only [comp_swap_apply, if_neg (show (parent - 1) / 2 ≠ hole by omega),
      if_neg (show (parent - 1) / 2 ≠ parent by omega),
      if_neg (show position ≠ parent by omega)]
    split_ifs with isHole
    · exact upper
    · exact upper.trans (siblings position below isHole child)
  · intro position below child
    simp only [comp_swap_apply, if_neg (show parent ≠ hole by omega), if_true,
      if_neg (show position ≠ parent by omega)]
    split_ifs with isHole
    · exact before.le
    · exact before.le.trans (siblings position below isHole child)

/-- When a hole changes places with the one of its children that ranks first, and does not rank
before it, the hole is at the child. -/
private theorem DescendsBut.lower (but : DescendsBut ranks hole) (below : 0 < child)
    (parent : (child - 1) / 2 = hole) (after : ranks child ≤ ranks hole)
    (first : ∀ position, 0 < position → (position - 1) / 2 = hole →
      ranks child ≤ ranks position) :
    DescendsBut (ranks ∘ Equiv.swap hole child) child ∧
      UnderParent (ranks ∘ Equiv.swap hole child) child := by
  have smaller : hole < child := by omega
  refine ⟨⟨?_, ?_⟩, ?_⟩
  · intro position below' here elsewhere
    simp only [comp_swap_apply, if_neg here, if_neg elsewhere]
    split_ifs with child' isHole isHole
    · omega
    · exact first position below' child'
    · rw [isHole]
      exact but.across child below parent (isHole ▸ below')
    · exact but.beside position below' isHole child'
  · intro position below' grandchild above
    simp only [comp_swap_apply, parent, if_true, if_neg (show position ≠ hole by omega),
      if_neg (show position ≠ child by omega)]
    have beside := but.beside position below' (by omega) (by omega)
    rwa [grandchild] at beside
  · intro above
    simp only [comp_swap_apply, parent, if_true, if_neg (show child ≠ hole by omega)]
    exact after

end Ranking

open Ranking

/-- Where an entry ranks: by frequency, then by the time of the last touch. -/
def Standing.rank (standing : Standing) : Nat ×ₗ Nat :=
  toLex (standing.frequency, standing.touched)

private theorem Ranked.before_iff {first second : Ranked} :
    first.before second = true ↔ first.standing.rank < second.standing.rank := by
  simp [before, standing, Standing.rank, Prod.Lex.toLex_lt_toLex]

namespace FrequencyHeap

/-- Where the entry at a position ranks. Beyond the heap this is last. -/
def rankAt (heap : FrequencyHeap) (position : Nat) : WithTop (Nat ×ₗ Nat) :=
  match heap.heap[position]?.bind heap.standing? with
  | some standing => standing.rank
  | none => ⊤

/-- No entry leaves after its children. -/
def Ordered (heap : FrequencyHeap) : Prop := Descends heap.rankAt

variable {heap after : FrequencyHeap} {position slot : Nat} {moved : Bool}

theorem rankAt_of_slot {standing : Standing} (here : heap.heap[position]? = some slot)
    (stands : heap.standing? slot = some standing) : heap.rankAt position = standing.rank := by
  rw [rankAt, here, Option.bind_some, stands]

private theorem rankAt_of_beyond (beyond : heap.size ≤ position) : heap.rankAt position = ⊤ := by
  rw [rankAt, Array.getElem?_eq_none beyond, Option.bind_none]

private theorem rankAt_congr {other : FrequencyHeap} {position' : Nat}
    (slots : other.heap[position']? = heap.heap[position]?)
    (standings : ∀ slot, heap.heap[position]? = some slot →
      other.standing? slot = heap.standing? slot) :
    other.rankAt position' = heap.rankAt position := by
  unfold rankAt
  rw [slots]
  cases here : heap.heap[position]? with
  | none => rfl
  | some slot => rw [Option.bind_some, Option.bind_some, standings slot here]

private theorem leavesBefore_eq (placed : heap.Placed) {first second : Nat}
    (firstBelow : first < heap.size) (secondBelow : second < heap.size) :
    heap.leavesBefore first second = .ok (decide (heap.rankAt first < heap.rankAt second)) := by
  have look : ∀ position < heap.size, ∃ entry : Ranked,
      heap.entryAt position = .ok entry ∧ heap.rankAt position = entry.standing.rank := by
    intro position below
    obtain ⟨slot, here⟩ := exists_slot below
    obtain ⟨entry, found, -⟩ := placed.placed position slot here
    refine ⟨entry, ?_, rankAt_of_slot here (by simp [standing?, found])⟩
    simp [entryAt, slotAt_ok here, Arena.read_eq_ok_iff.mpr found, bind, Except.bind]
  obtain ⟨entry, found, rank⟩ := look first firstBelow
  obtain ⟨entry', found', rank'⟩ := look second secondBelow
  have same : entry.before entry' = decide (heap.rankAt first < heap.rankAt second) := by
    rw [Bool.eq_iff_iff, decide_eq_true_eq, rank, rank', WithTop.coe_lt_coe, Ranked.before_iff]
  simp [leavesBefore, found, found', same, bind, Except.bind, pure, Except.pure]

private theorem swap_ranks (placed : heap.Placed) {first second : Nat}
    (firstBelow : first < heap.size) (secondBelow : second < heap.size) :
    ∃ after, heap.swap first second = .ok after ∧ after.Placed ∧ after.size = heap.size ∧
      after.rankAt = heap.rankAt ∘ Equiv.swap first second := by
  obtain ⟨after, swapped, placed', rearranges, places⟩ := swap_ok placed firstBelow secondBelow
  refine ⟨after, swapped, placed', rearranges.size, funext fun position => ?_⟩
  exact rankAt_congr (places position) fun slot _ => congrFun rearranges.standing slot

/-! ## Sifting -/

/-- An entry stays if it does not leave before its parent, and otherwise goes on from there. -/
private theorem siftUp_cases (placed : heap.Placed) (below : position < heap.size)
    (sifted : heap.siftUp position = .ok (moved, after)) :
    (moved = false ∧ after = heap ∧ UnderParent heap.rankAt position) ∨
      (moved = true ∧ 0 < position ∧ heap.rankAt position < heap.rankAt ((position - 1) / 2) ∧
        ∃ (middle : FrequencyHeap) (further : Bool), middle.Placed ∧ middle.size = heap.size ∧
          middle.rankAt = heap.rankAt ∘ Equiv.swap position ((position - 1) / 2) ∧
          middle.siftUp ((position - 1) / 2) = .ok (further, after)) := by
  rw [siftUp] at sifted
  split at sifted
  case isFalse top =>
    cases sifted
    exact .inl ⟨rfl, rfl, fun above => absurd above top⟩
  case isTrue above =>
    have parentBelow : (position - 1) / 2 < heap.size := by omega
    obtain ⟨before, compared, sifted⟩ := Checked.bind_eq_ok_iff.mp sifted
    rw [leavesBefore_eq placed below parentBelow] at compared
    cases compared
    by_cases before : heap.rankAt position < heap.rankAt ((position - 1) / 2)
    · obtain ⟨middle, swapped, placed', size, ranks⟩ := swap_ranks placed below parentBelow
      rw [if_pos (decide_eq_true before)] at sifted
      obtain ⟨middle', swapped', sifted⟩ := Checked.bind_eq_ok_iff.mp sifted
      cases swapped.symm.trans swapped'
      obtain ⟨⟨further, last⟩, sifted', same⟩ := Checked.bind_eq_ok_iff.mp sifted
      cases same
      exact .inr ⟨rfl, above, before, middle, further, placed', size, ranks, sifted'⟩
    · rw [if_neg (by simpa using before)] at sifted
      cases sifted
      exact .inl ⟨rfl, rfl, fun _ => not_lt.mp before⟩

/-- Sifting up restores the order if the entry does not leave after its children. -/
private theorem siftUp_ordered (placed : heap.Placed) (below : position < heap.size)
    (but : DescendsBut heap.rankAt position) (covers : OverChildren heap.rankAt position)
    (sifted : heap.siftUp position = .ok (moved, after)) : after.Ordered := by
  induction position using Nat.strong_induction_on generalizing heap moved with
  | h position ih =>
    rcases siftUp_cases placed below sifted with ⟨-, rfl, under⟩ |
      ⟨-, above, before, middle, further, placed', size, ranks, sifted'⟩
    · exact but.descends under covers
    · obtain ⟨but', covers'⟩ := but.raise above before
      rw [← ranks] at but' covers'
      exact ih _ (by omega) placed' (by omega) but' covers' sifted'

/-- Sifting up restores the order if the entry moves, and otherwise it does not leave before its
parent. -/
private theorem siftUp_ordered_or (placed : heap.Placed) (below : position < heap.size)
    (but : DescendsBut heap.rankAt position)
    (sifted : heap.siftUp position = .ok (moved, after)) :
    (moved = true ∧ after.Ordered) ∨
      (moved = false ∧ after = heap ∧ UnderParent heap.rankAt position) := by
  rcases siftUp_cases placed below sifted with stays |
    ⟨moves, above, before, middle, further, placed', size, ranks, sifted'⟩
  · exact .inr stays
  · obtain ⟨but', covers'⟩ := but.raise above before
    rw [← ranks] at but' covers'
    exact .inl ⟨moves, siftUp_ordered placed' (by omega) but' covers' sifted'⟩

private theorem lesser_le (placed : heap.Placed) {child best least : Nat} (below : best < heap.size)
    (found : heap.lesser heap.size child best = .ok least) :
    (least = best ∨ least = child) ∧ least < heap.size ∧ heap.rankAt least ≤ heap.rankAt best ∧
      heap.rankAt least ≤ heap.rankAt child := by
  unfold lesser at found
  split at found
  case isTrue inside =>
    rw [leavesBefore_eq placed inside below] at found
    by_cases before : heap.rankAt child < heap.rankAt best
    · simp only [before, decide_true, bind, Except.bind, pure, Except.pure, if_true] at found
      cases found
      exact ⟨.inr rfl, inside, before.le, le_rfl⟩
    · simp only [before, decide_false, bind, Except.bind, pure, Except.pure, Bool.false_eq_true,
        if_false] at found
      cases found
      exact ⟨.inl rfl, below, le_rfl, not_lt.mp before⟩
  case isFalse beyond =>
    cases found
    exact ⟨.inl rfl, below, le_rfl, rankAt_of_beyond (Nat.le_of_not_lt beyond) ▸ le_top⟩

private theorem leastOfFamily_le (placed : heap.Placed) {parent least : Nat}
    (below : parent < heap.size) (found : heap.leastOfFamily heap.size parent = .ok least) :
    (least = parent ∨ (0 < least ∧ (least - 1) / 2 = parent)) ∧ least < heap.size ∧
      heap.rankAt least ≤ heap.rankAt parent ∧
      ∀ position, 0 < position → (position - 1) / 2 = parent →
        heap.rankAt least ≤ heap.rankAt position := by
  obtain ⟨better, found', found⟩ := Checked.bind_eq_ok_iff.mp found
  obtain ⟨among, inside, overParent, overLeft⟩ := lesser_le placed below found'
  obtain ⟨among', inside', overBetter, overRight⟩ := lesser_le placed inside found
  refine ⟨by omega, inside', overBetter.trans overParent, fun position above child => ?_⟩
  obtain rfl | rfl : position = 2 * parent + 1 ∨ position = 2 * parent + 2 := by omega
  · exact overBetter.trans overLeft
  · exact overRight

/-- Sifting down restores the order if the entry does not leave before its parent. -/
private theorem siftDown_ordered (placed : heap.Placed) (below : position < heap.size)
    (but : DescendsBut heap.rankAt position) (under : UnderParent heap.rankAt position)
    (sifted : heap.siftDown heap.size position = .ok after) : after.Ordered := by
  induction left : heap.size - position using Nat.strong_induction_on
    generalizing heap position with
  | h left' ih =>
    rw [siftDown] at sifted
    obtain ⟨least, found, sifted⟩ := Checked.bind_eq_ok_iff.mp sifted
    obtain ⟨among, inside, overParent, first⟩ := leastOfFamily_le placed below found
    split at sifted
    case isTrue further =>
      obtain ⟨above, child⟩ := among.resolve_left (by omega)
      obtain ⟨middle, swapped, placed', size, ranks⟩ := swap_ranks placed below inside
      obtain ⟨middle', swapped', sifted⟩ := Checked.bind_eq_ok_iff.mp sifted
      cases swapped.symm.trans swapped'
      obtain ⟨but', under'⟩ := but.lower above child overParent first
      rw [← ranks] at but' under'
      rw [← size] at sifted
      exact ih (middle.size - least) (by omega) placed' (by omega) but' under' sifted rfl
    case isFalse stays =>
      cases sifted
      obtain rfl : least = position := by omega
      exact but.descends under first

theorem restore_ordered (placed : heap.Placed) (below : position < heap.size)
    (but : DescendsBut heap.rankAt position) (restored : heap.restore position = .ok after) :
    after.Ordered := by
  obtain ⟨⟨moved, middle⟩, sifted, rest⟩ := Checked.bind_eq_ok_iff.mp restored
  rcases siftUp_ordered_or placed below but sifted with ⟨rfl, ordered⟩ | ⟨rfl, rfl, under⟩
  · cases rest
    exact ordered
  · exact siftDown_ordered placed below but under rest

/-! ## Operations -/

variable {key : String}

theorem ordered_empty : FrequencyHeap.empty.Ordered := fun _ _ => le_rfl

theorem Ordered.push (ordered : heap.Ordered) (layout : heap.Layout)
    (pushed : heap.push key = .ok (slot, after)) : after.Ordered := by
  obtain ⟨slot', arena, inserted, tidy, vacant, content⟩ := Arena.insert_ok layout.tidy
    { key, frequency := 1, touched := heap.clock + 1, position := heap.size : Ranked }
  obtain ⟨⟨_, _⟩, inserted', rest⟩ := Checked.bind_eq_ok_iff.mp pushed
  cases inserted.symm.trans inserted'
  obtain ⟨⟨moved, last⟩, sifted, same⟩ := Checked.bind_eq_ok_iff.mp rest
  cases same
  have placed := layout.placed_push rfl tidy vacant content (heap.clock + 1)
  have size : (⟨heap.heap.push slot, arena, heap.clock + 1⟩ : FrequencyHeap).size = heap.size + 1 :=
    Array.size_push ..
  refine siftUp_ordered placed (by omega) ((Descends.but ordered heap.size).congr ?_) ?_ sifted
  · intro position elsewhere
    refine rankAt_congr ?_ ?_
    · exact (Array.getElem?_push ..).trans (if_neg elsewhere)
    · intro other here
      obtain ⟨entry, found, -⟩ := layout.placed position other here
      have distinct : other ≠ slot := by
        rintro rfl
        simp [vacant] at found
      simp [standing?, content, Function.update_of_ne distinct]
  · intro position above child
    exact le_top.trans_eq (rankAt_of_beyond (by omega)).symm

theorem Ordered.bump (ordered : heap.Ordered) (layout : heap.Layout) {standing : Standing}
    (stands : heap.standing? slot = some standing) (bumped : heap.bump slot = .ok after) :
    after.Ordered := by
  obtain ⟨entry, found, rfl⟩ := Option.map_eq_some_iff.mp stands
  obtain ⟨arena, modified, tidy, content⟩ := Arena.modify_ok layout.tidy found
    fun entry => { entry with frequency := entry.frequency + 1, touched := heap.clock + 1 }
  obtain ⟨_, modified', rest⟩ := Checked.bind_eq_ok_iff.mp bumped
  cases modified.symm.trans modified'
  obtain ⟨raised, read, restored⟩ := Checked.bind_eq_ok_iff.mp rest
  rw [Arena.read_eq_ok_iff, content, Function.update_self, Option.some.injEq] at read
  subst read
  have here := layout.position_eq (layout.seated slot (by simp [found])) found
  have placed := layout.placed_modify found (by rfl) tidy content (heap.clock + 1)
  refine restore_ordered placed (lt_size_of_slot here)
    ((Descends.but ordered entry.position).congr ?_) restored
  intro position elsewhere
  refine rankAt_congr rfl fun other there => ?_
  have distinct : other ≠ slot := by
    rintro rfl
    exact elsewhere (layout.toPlaced.injective there here)
  simp [standing?, content, Function.update_of_ne distinct]

/-- When the entry at a position is exchanged for the last one and cut off, the gap is the only
exception to the order. -/
private theorem Ordered.cut (ordered : heap.Ordered) (placed : heap.Placed)
    (below : position < heap.size) {swapped shorter : FrequencyHeap}
    (exchanged : heap.swap position (heap.size - 1) = .ok swapped)
    (shorter_eq : shorter = { swapped with heap := swapped.heap.pop }) :
    shorter.size = heap.size - 1 ∧ DescendsBut shorter.rankAt position ∧
      (shorter.size ≤ position → shorter.Ordered) := by
  obtain ⟨swapped', exchanged', -, sameSize, ranks⟩ :=
    swap_ranks placed below (show heap.size - 1 < heap.size by omega)
  cases exchanged.symm.trans exchanged'
  have size : shorter.size = heap.size - 1 := by
    rw [shorter_eq, ← sameSize]
    exact Array.size_pop ..
  have kept : ∀ other, other ≠ position ∨ shorter.size ≤ position →
      shorter.rankAt other = if other < heap.size - 1 then heap.rankAt other else ⊤ := by
    intro other elsewhere
    split_ifs with inside
    · have same : shorter.rankAt other = swapped.rankAt other := by
        refine rankAt_congr ?_ fun slot _ => by rw [shorter_eq]; rfl
        rw [shorter_eq, Array.getElem?_pop, if_pos (by rw [← sameSize] at inside; exact inside)]
      rw [same, ranks, Function.comp_apply, Equiv.swap_apply_of_ne_of_ne (by omega) (by omega)]
    · exact rankAt_of_beyond (by omega)
  have truncated := Descends.truncate ordered (heap.size - 1)
  refine ⟨size, (truncated.but position).congr fun other elsewhere => kept other (.inl elsewhere),
    fun beyond => ?_⟩
  have same := funext fun other => kept other (.inr beyond)
  rw [Ordered, same]
  exact truncated

private theorem Ordered.release (ordered : heap.Ordered) (layout : heap.Layout)
    {standing : Standing} (stands : heap.standing? slot = some standing)
    (released : heap.release slot = .ok (key, after)) : after.Ordered := by
  obtain ⟨entry, found, rfl⟩ := Option.map_eq_some_iff.mp stands
  have below := lt_size_of_slot (layout.position_eq (layout.seated slot (by simp [found])) found)
  obtain ⟨swapped, shorter, exchanged, shorter_eq, placed, members, standings, -⟩ :=
    cut_ok layout found
  obtain ⟨size, but, ordered'⟩ := ordered.cut layout.toPlaced below exchanged shorter_eq
  have read := Arena.read_eq_ok_iff.mpr found
  have subtracted : Checked.subtract heap.size 1 = .ok (heap.size - 1) := by
    rw [Checked.subtract_eq_ok_iff]
    omega
  simp only [FrequencyHeap.release, read, subtracted, exchanged, ← shorter_eq, bind, Except.bind]
    at released
  -- vacating the slot of the entry changes nothing, since the slot is no longer in the heap
  have vacates : ∀ restored : FrequencyHeap, shorter.Rearranges restored → restored.Placed →
      restored.Ordered → (restored.arena.release slot >>= fun vacated =>
        pure (vacated.1.key, { restored with arena := vacated.2 })) = .ok (key, after) →
      after.Ordered := by
    intro restored rearranges placed' ordered vacated
    have stands' : restored.standing? slot = some entry.standing := by
      rw [rearranges.standing, standings, stands]
    obtain ⟨entry', found', -⟩ := Option.map_eq_some_iff.mp stands'
    obtain ⟨arena, vacated', -, content⟩ := Arena.release_ok placed'.tidy found'
    obtain ⟨⟨_, _⟩, vacated, same⟩ := Checked.bind_eq_ok_iff.mp vacated
    cases vacated.symm.trans vacated'
    cases same
    have same : ({ restored with arena } : FrequencyHeap).rankAt = restored.rankAt := by
      refine funext fun position => rankAt_congr rfl fun other here => ?_
      have member := (rearranges.members other).mp (Array.mem_of_getElem? here)
      simp [standing?, content, Function.update_of_ne ((members other).mp member).2]
    rw [Ordered, same]
    exact ordered
  by_cases inside : entry.position < shorter.size
  · rw [if_pos inside] at released
    obtain ⟨restored, filled, rest⟩ := Checked.bind_eq_ok_iff.mp released
    obtain ⟨_, filled', placed', rearranges⟩ := restore_ok placed inside
    cases filled.symm.trans filled'
    exact vacates restored rearranges placed' (restore_ordered placed inside but filled) rest
  · rw [if_neg inside] at released
    exact vacates shorter (.refl shorter) placed (ordered' (Nat.le_of_not_lt inside)) released

private theorem Ordered.top_first (ordered : heap.Ordered) (layout : heap.Layout)
    (top : heap.heap[0]? = some slot) : ∃ standing, heap.standing? slot = some standing ∧
      ∀ other standing', heap.standing? other = some standing' →
        standing.rank ≤ standing'.rank := by
  obtain ⟨entry, found, -⟩ := layout.placed 0 slot top
  have stands : heap.standing? slot = some entry.standing := by simp [standing?, found]
  refine ⟨_, stands, fun other standing' stands' => ?_⟩
  have member : other ∈ heap.heap := layout.mem_iff.mpr (by simp [stands'])
  obtain ⟨position, here⟩ := Array.mem_iff_getElem?.mp member
  have first := Descends.top_le ordered position
  rwa [rankAt_of_slot top stands, rankAt_of_slot here stands', WithTop.coe_le_coe] at first

/-- A heap is empty, or it gives up the entry that leaves first and closes the gap. -/
theorem Ordered.pop_cases (ordered : heap.Ordered) (layout : heap.Layout) :
    (heap.pop = .ok none ∧ ∀ slot, heap.standing? slot = none) ∨
      ∃ slot standing after, heap.pop = .ok (some (standing.key, after)) ∧ after.Layout ∧
        after.Ordered ∧ heap.standing? slot = some standing ∧
        after.standing? = Function.update heap.standing? slot none ∧ after.clock = heap.clock ∧
        ∀ other standing', heap.standing? other = some standing' →
          standing.rank ≤ standing'.rank := by
  cases top : heap.heap[0]? with
  | none =>
    refine .inl ((pop_ok layout).resolve_right ?_)
    rintro ⟨slot, standing, after, popped, -⟩
    rw [FrequencyHeap.pop, top] at popped
    cases popped
  | some slot =>
    obtain ⟨standing, stands, first⟩ := ordered.top_first layout top
    obtain ⟨after, released, layout', content, clock⟩ := release_ok layout stands
    refine .inr ⟨slot, standing, after, ?_, layout', ordered.release layout stands released, stands,
      content, clock, first⟩
    simp [FrequencyHeap.pop, top, released, bind, Except.bind, pure, Except.pure]

theorem Ordered.pop (ordered : heap.Ordered) (layout : heap.Layout)
    (popped : heap.pop = .ok (some (key, after))) :
    after.Ordered ∧ ∃ slot standing, heap.standing? slot = some standing ∧ standing.key = key ∧
      ∀ other standing', heap.standing? other = some standing' →
        standing.rank ≤ standing'.rank := by
  rcases ordered.pop_cases layout with ⟨nothing, -⟩ |
    ⟨slot, standing, _, popped', -, ordered', stands, -, -, first⟩
  · cases popped.symm.trans nothing
  · cases popped.symm.trans popped'
    exact ⟨ordered', slot, standing, stands, rfl, first⟩

end FrequencyHeap

end PeerCache.Eviction
