import Mathlib
import PeerCache.Eviction.FrequencyHeap
import PeerCache.Proofs.Eviction.ArenaSlots

/-! # The layout of frequency heaps

Every slot in a heap holds an entry that remembers its position. Sifting only rearranges: it keeps
which slots are in the heap and what their entries say apart from their positions, whatever the
ranks are. That the rearrangement also restores the order of ranks is a separate matter.
-/

namespace PeerCache.Eviction

/-- What an entry says apart from its place in the heap. -/
structure Standing where
  key : String
  frequency : Nat
  touched : Nat
deriving DecidableEq, Repr

/-- The standing of an entry. -/
def Ranked.standing (entry : Ranked) : Standing := ⟨entry.key, entry.frequency, entry.touched⟩

namespace FrequencyHeap

/-- The standing of the entry in a slot. -/
def standing? (heap : FrequencyHeap) (slot : Nat) : Option Standing :=
  (heap.arena.get? slot).map Ranked.standing

/-- The slots in the heap hold entries that remember where they are. -/
structure Placed (heap : FrequencyHeap) : Prop where
  tidy : heap.arena.Tidy
  placed : ∀ position slot, heap.heap[position]? = some slot →
    ∃ entry, heap.arena.get? slot = some entry ∧ entry.position = position

/-- Besides, every occupied slot is in the heap. -/
structure Layout (heap : FrequencyHeap) : Prop extends Placed heap where
  seated : ∀ slot, heap.arena.get? slot ≠ none → slot ∈ heap.heap

/-- One heap has the slots, standings and clock of another. -/
structure Rearranges (heap after : FrequencyHeap) : Prop where
  size : after.size = heap.size
  members : ∀ slot, slot ∈ after.heap ↔ slot ∈ heap.heap
  standing : after.standing? = heap.standing?
  clock : after.clock = heap.clock

theorem Rearranges.refl (heap : FrequencyHeap) : heap.Rearranges heap :=
  ⟨rfl, fun _ => .rfl, rfl, rfl⟩

theorem Rearranges.trans {heap middle after : FrequencyHeap} (left : heap.Rearranges middle)
    (right : middle.Rearranges after) : heap.Rearranges after where
  size := right.size.trans left.size
  members slot := (right.members slot).trans (left.members slot)
  standing := right.standing.trans left.standing
  clock := right.clock.trans left.clock

theorem Placed.injective {heap : FrequencyHeap} (placed : heap.Placed) {first second slot : Nat}
    (atFirst : heap.heap[first]? = some slot) (atSecond : heap.heap[second]? = some slot) :
    first = second := by
  obtain ⟨entry, found, rfl⟩ := placed.placed first slot atFirst
  obtain ⟨entry', found', rfl⟩ := placed.placed second slot atSecond
  rw [found] at found'
  cases found'
  rfl

theorem Placed.position_eq {heap : FrequencyHeap} (placed : heap.Placed) {slot : Nat}
    {entry : Ranked} (member : slot ∈ heap.heap) (found : heap.arena.get? slot = some entry) :
    heap.heap[entry.position]? = some slot := by
  obtain ⟨position, atPosition⟩ := Array.mem_iff_getElem?.mp member
  obtain ⟨entry', found', rfl⟩ := placed.placed position slot atPosition
  rw [found] at found'
  cases found'
  exact atPosition

theorem Placed.nodup {heap : FrequencyHeap} (placed : heap.Placed) : heap.heap.toList.Nodup := by
  rw [List.nodup_iff_injective_get]
  intro first second same
  have atFirst : heap.heap[first.1]? = some (heap.heap.toList.get first) := by simp
  have atSecond : heap.heap[second.1]? = some (heap.heap.toList.get second) := by simp
  exact Fin.ext (placed.injective atFirst (same ▸ atSecond))

theorem slotAt_ok {heap : FrequencyHeap} {position slot : Nat}
    (here : heap.heap[position]? = some slot) : heap.slotAt position = .ok slot := by
  simp [slotAt, here]

theorem exists_slot {heap : FrequencyHeap} {position : Nat} (below : position < heap.size) :
    ∃ slot, heap.heap[position]? = some slot :=
  ⟨heap.heap[position], Array.getElem?_eq_getElem below⟩

theorem lt_size_of_slot {heap : FrequencyHeap} {position slot : Nat}
    (here : heap.heap[position]? = some slot) : position < heap.size :=
  (Array.getElem?_eq_some_iff.mp here).1

private theorem entryAt_ok {heap : FrequencyHeap} (placed : heap.Placed) {position : Nat}
    (below : position < heap.size) : ∃ entry, heap.entryAt position = .ok entry := by
  obtain ⟨slot, here⟩ := exists_slot below
  obtain ⟨entry, found, -⟩ := placed.placed position slot here
  refine ⟨entry, ?_⟩
  simp [entryAt, slotAt_ok here, Arena.read_eq_ok_iff.mpr found, bind, Except.bind]

private theorem leavesBefore_ok {heap : FrequencyHeap} (placed : heap.Placed) {first second : Nat}
    (firstBelow : first < heap.size) (secondBelow : second < heap.size) :
    ∃ answer, heap.leavesBefore first second = .ok answer := by
  obtain ⟨entry, found⟩ := entryAt_ok placed firstBelow
  obtain ⟨entry', found'⟩ := entryAt_ok placed secondBelow
  refine ⟨entry.before entry', ?_⟩
  simp [leavesBefore, found, found', bind, Except.bind, pure, Except.pure]

/-! ## Sifting -/

/-- A change of the entry in one slot that leaves its standing alone leaves all standings alone. -/
private theorem map_standing_update {look : Nat → Option Ranked} {slot : Nat} {entry : Ranked}
    (found : look slot = some entry) (position : Nat) (other : Nat) :
    (Function.update look slot (some { entry with position }) other).map Ranked.standing =
      (look other).map Ranked.standing := by
  by_cases same : other = slot
  · subst same
    simp [found, Ranked.standing]
  · rw [Function.update_of_ne same]

private theorem getElem?_exchange {slots : Array Nat} {first second firstSlot secondSlot : Nat}
    (atFirst : slots[first]? = some firstSlot) (atSecond : slots[second]? = some secondSlot)
    (position : Nat) :
    ((slots.setIfInBounds first secondSlot).setIfInBounds second firstSlot)[position]? =
      slots[Equiv.swap first second position]? := by
  have firstBelow : first < slots.size := (Array.getElem?_eq_some_iff.mp atFirst).1
  have secondBelow : second < slots.size := (Array.getElem?_eq_some_iff.mp atSecond).1
  rw [Equiv.swap_apply_def]
  grind

private theorem mem_exchange {slots : Array Nat} {first second firstSlot secondSlot : Nat}
    (atFirst : slots[first]? = some firstSlot) (atSecond : slots[second]? = some secondSlot)
    (slot : Nat) :
    slot ∈ (slots.setIfInBounds first secondSlot).setIfInBounds second firstSlot ↔
      slot ∈ slots := by
  simp only [Array.mem_iff_getElem?, getElem?_exchange atFirst atSecond]
  have onto := (Equiv.swap first second).surjective
  exact (onto.exists (p := fun position => slots[position]? = some slot)).symm

/-- When the entries of two slots that were exchanged are told their new places, all entries know
theirs. The slot that comes second is told first, and the other one last. -/
private theorem Placed.exchange {heap : FrequencyHeap} (placed : heap.Placed)
    {first second firstSlot secondSlot : Nat} (atFirst : heap.heap[first]? = some firstSlot)
    (atSecond : heap.heap[second]? = some secondSlot) (firstEntry secondEntry : Ranked)
    {position slot : Nat}
    (here : heap.heap[Equiv.swap first second position]? = some slot) :
    ∃ entry, Function.update
        (Function.update heap.arena.get? secondSlot (some { secondEntry with position := first }))
        firstSlot (some { firstEntry with position := second }) slot = some entry ∧
      entry.position = position := by
  by_cases isFirst : slot = firstSlot
  · subst isFirst
    have arrived : Equiv.swap first second position = first := placed.injective here atFirst
    rw [Equiv.swap_apply_eq_iff, Equiv.swap_apply_left] at arrived
    exact ⟨_, Function.update_self .., arrived.symm⟩
  · rw [Function.update_of_ne isFirst]
    by_cases isSecond : slot = secondSlot
    · subst isSecond
      have arrived : Equiv.swap first second position = second := placed.injective here atSecond
      rw [Equiv.swap_apply_eq_iff, Equiv.swap_apply_right] at arrived
      exact ⟨_, Function.update_self .., arrived.symm⟩
    · rw [Function.update_of_ne isSecond]
      have stayed : Equiv.swap first second position = position := by
        refine Equiv.swap_apply_of_ne_of_ne ?_ ?_
        · rintro rfl
          rw [Equiv.swap_apply_left, atSecond, Option.some.injEq] at here
          exact isSecond here.symm
        · rintro rfl
          rw [Equiv.swap_apply_right, atFirst, Option.some.injEq] at here
          exact isFirst here.symm
      rw [stayed] at here
      exact placed.placed position slot here

/-- Exchanging two positions of a heap rearranges it, and moves the slots of these two only. -/
theorem swap_ok {heap : FrequencyHeap} (placed : heap.Placed) {first second : Nat}
    (firstBelow : first < heap.size) (secondBelow : second < heap.size) :
    ∃ after, heap.swap first second = .ok after ∧ after.Placed ∧ heap.Rearranges after ∧
      ∀ position, after.heap[position]? = heap.heap[Equiv.swap first second position]? := by
  obtain ⟨firstSlot, atFirst⟩ := exists_slot firstBelow
  obtain ⟨secondSlot, atSecond⟩ := exists_slot secondBelow
  obtain ⟨secondEntry, found, -⟩ := placed.placed second secondSlot atSecond
  obtain ⟨arena, modified, tidy, content⟩ :=
    Arena.modify_ok placed.tidy found ({ · with position := first })
  have occupied : ∃ entry, arena.get? firstSlot = some entry := by
    obtain ⟨entry, found', -⟩ := placed.placed first firstSlot atFirst
    rw [content]
    by_cases same : firstSlot = secondSlot
    · exact ⟨_, by rw [same, Function.update_self]⟩
    · exact ⟨entry, by rw [Function.update_of_ne same, found']⟩
  obtain ⟨firstEntry, found'⟩ := occupied
  obtain ⟨arena', modified', tidy', content'⟩ :=
    Arena.modify_ok tidy found' ({ · with position := second })
  let exchanged := (heap.heap.setIfInBounds first secondSlot).setIfInBounds second firstSlot
  have places := getElem?_exchange atFirst atSecond
  refine ⟨{ heap with heap := exchanged, arena := arena' }, ?_, ⟨tidy', ?_⟩,
    ⟨?_, mem_exchange atFirst atSecond, ?_, rfl⟩, places⟩
  · simp [swap, slotAt_ok atFirst, slotAt_ok atSecond, modified, modified', exchanged, bind,
      Except.bind, pure, Except.pure]
  · intro position slot here
    rw [content', content]
    rw [places] at here
    exact placed.exchange atFirst atSecond firstEntry secondEntry here
  · simp [size, exchanged]
  · funext other
    simp only [standing?, content', map_standing_update found']
    rw [content, map_standing_update found]

theorem siftUp_ok {heap : FrequencyHeap} (placed : heap.Placed) {position : Nat}
    (below : position < heap.size) :
    ∃ moved after, heap.siftUp position = .ok (moved, after) ∧ after.Placed ∧
      heap.Rearranges after := by
  induction position using Nat.strong_induction_on generalizing heap with
  | h position ih =>
    rw [siftUp]
    by_cases top : 0 < position
    · have parentBelow : (position - 1) / 2 < heap.size := by omega
      obtain ⟨answer, compared⟩ := leavesBefore_ok placed below parentBelow
      cases answer with
      | false =>
        refine ⟨false, heap, ?_, placed, .refl heap⟩
        simp [top, compared, bind, Except.bind, pure, Except.pure]
      | true =>
        obtain ⟨middle, swapped, placed', rearranges, -⟩ := swap_ok placed below parentBelow
        obtain ⟨moved, after, sifted, placed'', rearranges'⟩ :=
          ih ((position - 1) / 2) (by omega) placed' (rearranges.size ▸ parentBelow)
        refine ⟨true, after, ?_, placed'', rearranges.trans rearranges'⟩
        simp [top, compared, swapped, sifted, bind, Except.bind, pure, Except.pure]
    · exact ⟨false, heap, by rw [if_neg top], placed, .refl heap⟩

private theorem lesser_ok {heap : FrequencyHeap} (placed : heap.Placed) (child : Nat) {best : Nat}
    (below : best < heap.size) :
    ∃ least, heap.lesser heap.size child best = .ok least ∧ least < heap.size ∧
      (least = best ∨ least = child) := by
  by_cases inside : child < heap.size
  · obtain ⟨answer, compared⟩ := leavesBefore_ok placed inside below
    refine ⟨if answer then child else best, ?_, ?_, ?_⟩
    · simp [lesser, inside, compared, bind, Except.bind, pure, Except.pure]
    · cases answer <;> assumption
    · cases answer <;> simp
  · exact ⟨best, by simp [lesser, inside], below, .inl rfl⟩

private theorem leastOfFamily_ok {heap : FrequencyHeap} (placed : heap.Placed) {parent : Nat}
    (below : parent < heap.size) :
    ∃ least, heap.leastOfFamily heap.size parent = .ok least ∧ least < heap.size := by
  obtain ⟨better, compared, betterBelow, -⟩ := lesser_ok placed (2 * parent + 1) below
  obtain ⟨least, compared', leastBelow, -⟩ := lesser_ok placed (2 * parent + 2) betterBelow
  refine ⟨least, ?_, leastBelow⟩
  simp [leastOfFamily, compared, compared', bind, Except.bind]

private theorem siftDown_ok {heap : FrequencyHeap} (placed : heap.Placed) {position : Nat}
    (below : position < heap.size) :
    ∃ after, heap.siftDown heap.size position = .ok after ∧ after.Placed ∧
      heap.Rearranges after := by
  induction left : heap.size - position using Nat.strong_induction_on
    generalizing heap position with
  | h left' ih =>
    rw [siftDown]
    obtain ⟨least, found, leastBelow⟩ := leastOfFamily_ok placed below
    by_cases further : position < least ∧ least < heap.size
    · obtain ⟨middle, swapped, placed', rearranges, -⟩ := swap_ok placed below leastBelow
      obtain ⟨after, sifted, placed'', rearranges'⟩ :=
        ih (middle.size - least) (by rw [rearranges.size]; omega) placed'
          (rearranges.size ▸ leastBelow) rfl
      rw [rearranges.size] at sifted
      refine ⟨after, ?_, placed'', rearranges.trans rearranges'⟩
      simp [found, further, swapped, sifted, bind, Except.bind]
    · refine ⟨heap, ?_, placed, .refl heap⟩
      simp only [found, bind, Except.bind, dif_neg further]
      rfl

theorem restore_ok {heap : FrequencyHeap} (placed : heap.Placed) {position : Nat}
    (below : position < heap.size) :
    ∃ after, heap.restore position = .ok after ∧ after.Placed ∧ heap.Rearranges after := by
  obtain ⟨moved, middle, sifted, placed', rearranges⟩ := siftUp_ok placed below
  cases moved with
  | true =>
    refine ⟨middle, ?_, placed', rearranges⟩
    simp [restore, sifted, bind, Except.bind, pure, Except.pure]
  | false =>
    obtain ⟨after, sifted', placed'', rearranges'⟩ :=
      siftDown_ok placed' (rearranges.size ▸ below)
    refine ⟨after, ?_, placed'', rearranges.trans rearranges'⟩
    simp [restore, sifted, sifted', bind, Except.bind]

end FrequencyHeap

end PeerCache.Eviction
