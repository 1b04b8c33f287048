import PeerCache.Proofs.Eviction.LinkedNodes

/-! # Linked lists are sequences

`Represents` says of a list and a sequence of places that the places are linked from end to end,
that the list knows its ends and its length, and that no other slot is occupied. Every operation is
then an operation on the sequence, and none of them faults.
-/

namespace PeerCache.Eviction.LinkedList

variable {α : Type}

/-! ## Sequences -/

/-- A list stands for a sequence of places: its nodes are linked in that order, its ends and its
length are right, and no other slot is occupied. -/
structure Represents (list : LinkedList α) (places : List (Nat × α)) : Prop where
  tidy : list.arena.Tidy
  nodup : (slots places).Nodup
  linked : Linked list.arena.get? none places none
  occupied : ∀ slot, list.arena.get? slot ≠ none → slot ∈ slots places
  head : list.head = firstSlot places none
  tail : list.tail = lastSlot none places
  length : list.length = places.length

theorem represents_empty : (empty : LinkedList α).Represents [] where
  tidy := Arena.tidy_empty
  nodup := List.nodup_nil
  linked := trivial
  occupied := by intro slot full; exact absurd (Arena.get?_empty slot) full
  head := rfl
  tail := rfl
  length := rfl

/-- The value under a slot. -/
def value? (list : LinkedList α) (slot : Nat) : Option α :=
  (list.arena.get? slot).map Node.value

/-- The value that an occupied slot holds is the one of its place. -/
theorem Represents.value?_eq_some_iff {list : LinkedList α} {places : List (Nat × α)}
    (represents : list.Represents places) {slot : Nat} {value : α} :
    list.value? slot = some value ↔ (slot, value) ∈ places := by
  constructor
  · intro holds
    obtain ⟨node, found, rfl⟩ := Option.map_eq_some_iff.mp holds
    obtain ⟨⟨same, value⟩, member, rfl⟩ :=
      List.mem_map.mp (represents.occupied slot (by simp [found]))
    obtain ⟨node', found', rfl⟩ := represents.linked.occupied member
    rw [found] at found'
    cases found'
    exact member
  · intro member
    obtain ⟨node, found, rfl⟩ := represents.linked.occupied member
    simp [value?, found]

theorem Represents.value?_of_perm {list after : LinkedList α} {places places' : List (Nat × α)}
    (represents : list.Represents places) (represents' : after.Represents places')
    (same : places'.Perm places) : after.value? = list.value? := by
  funext slot
  apply Option.ext
  intro value
  rw [represents'.value?_eq_some_iff, represents.value?_eq_some_iff, same.mem_iff]

theorem Represents.value?_of_perm_cons {list larger : LinkedList α}
    {places places' : List (Nat × α)} {slot : Nat} {value : α}
    (represents : list.Represents places) (represents' : larger.Represents places')
    (same : places'.Perm ((slot, value) :: places)) :
    list.value? slot = none ∧
      larger.value? = Function.update list.value? slot (some value) := by
  have outside : slot ∉ slots places := by
    have nodup := (same.map Prod.fst).nodup_iff.mp represents'.nodup
    exact (List.nodup_cons.mp nodup).1
  have absent (other : α) : (slot, other) ∉ places := fun member =>
    outside (List.mem_map.mpr ⟨_, member, rfl⟩)
  constructor
  · apply Option.eq_none_iff_forall_not_mem.mpr
    intro other held
    exact absent other (represents.value?_eq_some_iff.mp held)
  · funext other
    apply Option.ext
    intro found
    rw [represents'.value?_eq_some_iff, same.mem_iff, List.mem_cons]
    by_cases here : other = slot
    · subst here
      simp [absent, eq_comm]
    · rw [Function.update_of_ne here, represents.value?_eq_some_iff]
      simp [here]

/-- Unlinking a node joins the stretches on either side of it. The node itself is untouched. -/
private theorem unlink_ok {list : LinkedList α} {left right : List (Nat × α)} {slot : Nat}
    {value : α} (represents : list.Represents (left ++ (slot, value) :: right)) :
    ∃ after touched, list.unlink slot = .ok after ∧ Keeps list after touched ∧
      touched ⊆ slots (left ++ right) ∧ Linked after.arena.get? none (left ++ right) none ∧
      after.head = firstSlot (left ++ right) none ∧
      after.tail = lastSlot none (left ++ right) := by
  obtain ⟨tidy, nodup, linked, -, head, tail, -⟩ := represents
  obtain ⟨linkedLeft, found, linkedRight⟩ := (linked_append left _).mp linked
  have apart : (slots left ++ slots right).Nodup := by
    rw [slots_append, slots_cons] at nodup
    exact (List.nodup_middle.mp nodup).of_cons
  have disjoint : ∀ other ∈ slots left, other ∉ slots right :=
    fun other onLeft onRight => (List.nodup_append.mp apart).2.2 other onLeft other onRight rfl
  rw [firstSlot_append] at head
  rw [lastSlot_append] at tail
  obtain ⟨middle, touchedLeft, relinked, keepsLeft, subLeft, linkedLeft', head', tail'⟩ :=
    setNext_ok list tidy (List.Nodup.of_append_left apart) linkedLeft head (firstSlot right none)
  have linkedRight' : Linked middle.arena.get? (some slot) right none := by
    refine linkedRight.congr fun other member => keepsLeft.frame other fun touched => ?_
    exact disjoint other (subLeft touched) member
  obtain ⟨after, touchedRight, relinked', keepsRight, subRight, linkedRight'', head'', tail''⟩ :=
    setPrevious_ok keepsLeft.tidy (List.Nodup.of_append_right apart) linkedRight'
      (tail'.trans tail) (lastSlot none left)
  refine ⟨after, touchedLeft ++ touchedRight, ?_, keepsLeft.trans keepsRight, ?_, ?_, ?_, ?_⟩
  · have read := Arena.read_eq_ok_iff.mpr found
    simp only [unlink, read, relinked, relinked', bind, Except.bind]
  · rw [slots_append]
    exact List.append_subset.mpr ⟨List.subset_append_of_subset_left _ subLeft,
      List.subset_append_of_subset_right _ subRight⟩
  · refine (linked_append left right).mpr ⟨linkedLeft'.congr ?_, linkedRight''⟩
    exact fun other member => keepsRight.frame other fun touched =>
      disjoint other member (subRight touched)
  · rw [head'', head', firstSlot_append]
  · rw [tail'', lastSlot_append]

/-- A detached node that names the last place as its neighbour is placed behind it as soon as that
place, or the head, names the node. -/
private theorem attach_ok {list : LinkedList α} (tidy : list.arena.Tidy) {places : List (Nat × α)}
    {slot : Nat} {value : α} (nodup : (slots places).Nodup) (outside : slot ∉ slots places)
    (linked : Linked list.arena.get? none places none) (head : list.head = firstSlot places none)
    (detached : list.arena.get? slot = some ⟨value, lastSlot none places, none⟩)
    (occupied : ∀ other, list.arena.get? other ≠ none → other ≠ slot → other ∈ slots places) :
    ∃ after, list.setNext (lastSlot none places) (some slot) = .ok after ∧
      after.length = list.length ∧ ∀ length, length = places.length + 1 →
        { after with tail := some slot, length }.Represents (places ++ [(slot, value)]) := by
  obtain ⟨after, touched, relinked, keeps, sub, linked', head', -⟩ :=
    setNext_ok list tidy nodup linked head (some slot)
  have placed : after.arena.get? slot = some ⟨value, lastSlot none places, none⟩ := by
    rw [keeps.frame slot fun member => outside (sub member), detached]
  refine ⟨after, relinked, keeps.length, ?_⟩
  rintro length rfl
  refine ⟨keeps.tidy, ?_, (linked_append places _).mpr ⟨linked', placed, trivial⟩, ?_, ?_, ?_, ?_⟩
  · rw [slots_append]
    exact List.nodup_append_comm.mp (List.nodup_cons.mpr ⟨outside, nodup⟩)
  · intro other full
    rw [slots_append, List.mem_append]
    by_cases same : other = slot
    · exact .inr (by simp [same])
    · exact .inl (occupied other ((keeps.occupied other).mp full) same)
  · rw [firstSlot_append]
    exact head'
  · rw [lastSlot_concat]
  · rw [List.length_append, List.length_singleton]

/-- Appending a value places it at the end, under a slot that was vacant. -/
theorem pushBack_ok {list : LinkedList α} {places : List (Nat × α)}
    (represents : list.Represents places) (value : α) :
    ∃ slot after, list.pushBack value = .ok (slot, after) ∧
      after.Represents (places ++ [(slot, value)]) := by
  obtain ⟨tidy, nodup, linked, occupied, head, tail, length⟩ := represents
  obtain ⟨slot, arena, inserted, tidy', vacant, content⟩ :=
    Arena.insert_ok tidy { value, previous := list.tail, next := none }
  have outside : slot ∉ slots places := by
    intro member
    obtain ⟨place, inPlaces, rfl⟩ := List.mem_map.mp member
    obtain ⟨node, found, -⟩ := linked.occupied inPlaces
    simp [found] at vacant
  have linked' : Linked arena.get? none places none :=
    linked.congr fun other member => by
      rw [content, Function.update_of_ne (ne_of_mem_of_not_mem member outside)]
  have detached : arena.get? slot = some ⟨value, lastSlot none places, none⟩ := by
    rw [content, Function.update_self, tail]
  have occupied' : ∀ other, arena.get? other ≠ none → other ≠ slot → other ∈ slots places := by
    intro other full different
    rw [content, Function.update_of_ne different] at full
    exact occupied other full
  obtain ⟨after, relinked, length', represents⟩ :=
    attach_ok (show ({ list with arena } : LinkedList α).arena.Tidy from tidy') nodup outside
      linked' head detached occupied'
  refine ⟨slot, _, ?_, represents (list.length + 1) (by rw [length])⟩
  rw [← tail] at relinked
  simp [pushBack, inserted, relinked, length', bind, Except.bind, pure, Except.pure]

theorem Represents.nodup_middle {list : LinkedList α} {left right : List (Nat × α)} {slot : Nat}
    {value : α} (represents : list.Represents (left ++ (slot, value) :: right)) :
    slot ∉ slots (left ++ right) ∧ (slots (left ++ right)).Nodup := by
  have nodup := represents.nodup
  rw [slots_append, slots_cons, List.nodup_middle, List.nodup_cons] at nodup
  rwa [slots_append]

private theorem release_ok {list : LinkedList α} {left right : List (Nat × α)} {slot : Nat}
    {value : α} (represents : list.Represents (left ++ (slot, value) :: right)) :
    ∃ after, list.release slot = .ok (value, after) ∧ after.Represents (left ++ right) := by
  obtain ⟨middle, touched, unlinked, keeps, sub, linked, head, tail⟩ := unlink_ok represents
  obtain ⟨outside, nodup⟩ := represents.nodup_middle
  obtain ⟨tidy, -, linkedBefore, occupied, -, -, length⟩ := represents
  obtain ⟨node, found, rfl⟩ :=
    linkedBefore.occupied (List.mem_append_right left (List.mem_cons_self ..))
  have found' : middle.arena.get? slot = some node := by
    rw [keeps.frame slot fun member => outside (sub member), found]
  obtain ⟨arena, released, tidy', content⟩ := Arena.release_ok keeps.tidy found'
  have remaining : Checked.subtract middle.length 1 = .ok (left ++ right).length := by
    rw [Checked.subtract_eq_ok_iff, keeps.length, length]
    simp
    omega
  refine ⟨{ middle with arena, length := (left ++ right).length }, ?_, tidy', nodup, ?_, ?_,
    head, tail, rfl⟩
  · simp [release, unlinked, remaining, released, bind, Except.bind, pure, Except.pure]
  · exact linked.congr fun other member => by
      rw [content, Function.update_of_ne (ne_of_mem_of_not_mem member outside)]
  · intro other full
    rw [content] at full
    by_cases same : other = slot
    · simp [same] at full
    · rw [Function.update_of_ne same] at full
      have member := occupied other ((keeps.occupied other).mp full)
      simpa [same] using member

theorem popFront_nil {list : LinkedList α} (represents : list.Represents []) :
    list.popFront = .ok none := by
  simp only [popFront, represents.head, firstSlot]

theorem popFront_cons {list : LinkedList α} {slot : Nat} {value : α} {rest : List (Nat × α)}
    (represents : list.Represents ((slot, value) :: rest)) :
    ∃ after, list.popFront = .ok (some (value, after)) ∧ after.Represents rest := by
  obtain ⟨after, released, represents'⟩ :=
    release_ok (show list.Represents ([] ++ (slot, value) :: rest) from represents)
  refine ⟨after, ?_, represents'⟩
  simp [popFront, represents.head, firstSlot, released, bind, Except.bind, pure, Except.pure]

/-- Moving a node to the back moves its place there, and keeps the order of the others. -/
theorem moveToBack_ok {list : LinkedList α} {left right : List (Nat × α)} {slot : Nat} {value : α}
    (represents : list.Represents (left ++ (slot, value) :: right)) :
    ∃ after, list.moveToBack slot = .ok after ∧
      after.Represents (left ++ right ++ [(slot, value)]) := by
  obtain ⟨middle, touched, unlinked, keeps, sub, linked, head, tail⟩ := unlink_ok represents
  obtain ⟨outside, nodup⟩ := represents.nodup_middle
  by_cases last : list.tail = some slot
  · -- the node at the tail is the last one, so there is nothing behind it
    rcases List.eq_nil_or_concat right with rfl | ⟨init, final, rfl⟩
    · exact ⟨list, by simp [moveToBack, last], by simpa using represents⟩
    · rw [represents.tail, List.concat_eq_append, ← List.cons_append, ← List.append_assoc,
        lastSlot_concat, Option.some.injEq] at last
      exact absurd (by simp [← last]) outside
  · obtain ⟨tidy, -, linkedBefore, occupied, -, -, length⟩ := represents
    obtain ⟨node, found, rfl⟩ :=
      linkedBefore.occupied (List.mem_append_right left (List.mem_cons_self ..))
    have found' : middle.arena.get? slot = some node := by
      rw [keeps.frame slot fun member => outside (sub member), found]
    obtain ⟨arena, modified, keeps', renewed⟩ := modify_keeps keeps.tidy found'
      ({ · with previous := middle.tail, next := none })
    have linked' : Linked arena.get? none (left ++ right) none :=
      linked.congr fun other member => keeps'.frame other fun isSlot =>
        outside (List.mem_singleton.mp isSlot ▸ member)
    have occupied' : ∀ other, arena.get? other ≠ none → other ≠ slot →
        other ∈ slots (left ++ right) := by
      intro other full different
      have member := occupied other ((keeps.occupied other).mp ((keeps'.occupied other).mp full))
      simpa [different] using member
    rw [tail] at renewed
    obtain ⟨after, relinked, length', represents⟩ :=
      attach_ok keeps'.tidy nodup outside linked' head renewed occupied'
    refine ⟨{ after with tail := some slot }, ?_, represents after.length ?_⟩
    · rw [← tail] at relinked
      simp [moveToBack, last, unlinked, modified, relinked, bind, Except.bind, pure, Except.pure]
    · rw [length', show ({ middle with arena } : LinkedList α).length = middle.length from rfl,
        keeps.length, length, List.length_append, List.length_append, List.length_cons]
      rfl

/-! ## Reading a list -/

private theorem chain_next {arena : Arena (Node α)} {before : Option Nat} {places : List (Nat × α)}
    (linked : Linked arena.get? before places none) {limit : Nat} (enough : places.length ≤ limit) :
    ∃ met, chain arena Node.next limit (firstSlot places none) = .ok met ∧
      met.map (fun place => (place.1, place.2.value)) = places := by
  induction places generalizing before limit with
  | nil => exact ⟨[], by cases limit <;> rfl, rfl⟩
  | cons place rest ih =>
    obtain ⟨slot, value⟩ := place
    cases limit with
    | zero => simp at enough
    | succ limit =>
      obtain ⟨met, chained, same⟩ := ih linked.2 (Nat.le_of_succ_le_succ enough)
      have read := Arena.read_eq_ok_iff.mpr linked.1
      refine ⟨(slot, ⟨value, before, firstSlot rest none⟩) :: met, ?_, by simp [same]⟩
      rw [firstSlot]
      simp [chain, read, chained, bind, Except.bind, pure, Except.pure]

private theorem chain_previous {arena : Arena (Node α)} {after : Option Nat}
    {places : List (Nat × α)} (linked : Linked arena.get? none places after) {limit : Nat}
    (enough : places.length ≤ limit) :
    ∃ met, chain arena Node.previous limit (lastSlot none places) = .ok met ∧
      met.map (fun place => (place.1, place.2.value)) = places.reverse := by
  induction places using List.reverseRecOn generalizing after limit with
  | nil => exact ⟨[], by cases limit <;> rfl, rfl⟩
  | append_singleton init place ih =>
    obtain ⟨slot, value⟩ := place
    cases limit with
    | zero => simp at enough
    | succ limit =>
      obtain ⟨before, found, -⟩ := (linked_append init _).mp linked
      rw [List.length_append, List.length_singleton] at enough
      obtain ⟨met, chained, same⟩ := ih before (Nat.le_of_succ_le_succ enough)
      have read := Arena.read_eq_ok_iff.mpr found
      refine ⟨(slot, ⟨value, lastSlot none init, after⟩) :: met, ?_, by simp [same]⟩
      rw [lastSlot_concat]
      simp [chain, read, firstSlot, chained, bind, Except.bind, pure, Except.pure]

private theorem Represents.length_le {list : LinkedList α} {places : List (Nat × α)}
    (represents : list.Represents places) : places.length ≤ list.arena.size := by
  have sub : slots places ⊆ List.range list.arena.size := by
    intro slot member
    obtain ⟨place, inPlaces, rfl⟩ := List.mem_map.mp member
    obtain ⟨node, found, -⟩ := represents.linked.occupied inPlaces
    exact List.mem_range.mpr (Arena.lt_size_of_get? found)
  simpa [slots] using (represents.nodup.subperm sub).length_le

theorem forward_ok {list : LinkedList α} {places : List (Nat × α)}
    (represents : list.Represents places) : list.forward = .ok places := by
  obtain ⟨met, chained, same⟩ := chain_next represents.linked represents.length_le
  simp [forward, represents.head, chained, same, bind, Except.bind, pure, Except.pure]

theorem backward_ok {list : LinkedList α} {places : List (Nat × α)}
    (represents : list.Represents places) : list.backward = .ok places.reverse := by
  obtain ⟨met, chained, same⟩ := chain_previous represents.linked represents.length_le
  simp [backward, represents.tail, chained, same, bind, Except.bind, pure, Except.pure]

theorem toList_ok {list : LinkedList α} {places : List (Nat × α)}
    (represents : list.Represents places) : list.toList = .ok (places.map Prod.snd) := by
  simp [toList, forward_ok represents, bind, Except.bind, pure, Except.pure]

end PeerCache.Eviction.LinkedList
