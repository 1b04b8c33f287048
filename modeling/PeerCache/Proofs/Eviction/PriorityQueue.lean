import PeerCache.Proofs.Eviction.Drainage
import PeerCache.Proofs.Eviction.HeapHistory

/-! # Heaps by frequency are priority queues

Every key that was pushed and not popped since has an entry under its slot, whose frequency and last
touch are those that the history tells. A pop takes out the least of these keys. The heap reaches
nothing but sound states, and lists its keys in the order in which pops are going to answer them.
-/

namespace PeerCache.Eviction.FrequencyHeap

/-- What it means for a heap that it is in a sound state. -/
structure Sound (heap : FrequencyHeap) : Prop where
  /-- Every position has an occupied slot, whose entry remembers the position. -/
  placed : ∀ position < heap.size, ∃ slot entry, heap.heap[position]? = some slot ∧
    heap.arena.get? slot = some entry ∧ entry.position = position
  /-- No slot is in the heap twice. -/
  nodup : heap.heap.toList.Nodup
  /-- The occupied slots are those in the heap. -/
  occupied : ∀ slot, heap.arena.get? slot ≠ none ↔ slot ∈ heap.heap
  /-- No slot is on the free list twice. -/
  nodup_free : heap.arena.free.Nodup
  /-- The free slots are those that are not in the heap. -/
  free : ∀ slot, slot ∈ heap.arena.free ↔ slot < heap.arena.size ∧ slot ∉ heap.heap
  /-- Parents rank before their children. -/
  ordered : ∀ position parent child standing standing', 0 < position →
    heap.heap[(position - 1) / 2]? = some parent → heap.heap[position]? = some child →
    heap.standing? parent = some standing → heap.standing? child = some standing' →
    standing.rank < standing'.rank
  /-- No two entries rank alike. -/
  distinct : heap.Distinct

namespace History

section Definitions

variable (history : History)

/-- What it means for the heaps of a history that they are priority queues. -/
structure PriorityQueue : Prop where
  /-- No use faults. -/
  runs : container.Runs history.uses
  /-- Every state that is reached is sound. -/
  sound : ∀ time, (history.heap time).Sound
  /-- What is under a slot is what the history tells about the key in the heap that it was returned
  for. -/
  entries : ∀ time slot standing, (history.heap time).standing? slot = some standing ↔
    ∃ begun ∈ history.present time, history.slot? begun = some slot ∧
      standing = history.standing begun time
  /-- Every key in the heap has a slot. -/
  seated : ∀ time, ∀ begun ∈ history.present time, ∃ slot, history.slot? begun = some slot
  /-- No two keys in the heap have the same slot. -/
  single : ∀ time, ∀ begun ∈ history.present time, ∀ begun' ∈ history.present time,
    history.slot? begun = history.slot? begun' → begun = begun'
  /-- A pop answers the least key in the heap, if there is any. -/
  pops : ∀ time, (history.present time = ∅ ∧ (history.heap time).pop = .ok none) ∨
    ∃ begun after, history.Least (history.present time) begun time ∧
      (history.heap time).pop = .ok (some (history.key begun, after))
  /-- The keys are listed as repeated pops would answer them. -/
  sorted : ∀ time, ∃ keys, (history.heap time).sorted = .ok keys ∧ Drains (history.heap time) keys

/-- A heap agrees with the history up to a time. -/
structure Agrees (heap : FrequencyHeap) (time : Nat) : Prop where
  layout : heap.Layout
  ordered : heap.Ordered
  clock : heap.clock = history.clock time
  seats : history.Seats heap.standing? (history.present time) time

end Definitions

variable {history : History} {time : Nat} {use : Use String} {heap : FrequencyHeap}

/-! ## The heaps of a history -/

private theorem Agrees.pop_cases (agrees : history.Agrees heap time) :
    (history.present time = ∅ ∧ heap.pop = .ok none) ∨
      ∃ begun slot after, history.Least (history.present time) begun time ∧
        history.slot? begun = some slot ∧ heap.pop = .ok (some (history.key begun, after)) ∧
        after.Layout ∧ after.Ordered ∧ after.clock = heap.clock ∧
        after.standing? = Function.update heap.standing? slot none := by
  rcases agrees.ordered.pop_cases agrees.layout with ⟨nothing, vacant⟩ |
    ⟨slot, standing, after, popped, layout, ordered, stands, content, clock, first⟩
  · refine .inl ⟨Finset.eq_empty_of_forall_notMem fun begun member => ?_, nothing⟩
    obtain ⟨slot, known⟩ := agrees.seats.seated begun member
    cases (vacant slot).symm.trans (agrees.seats.stands begun member slot known)
  · obtain ⟨begun, member, known⟩ := agrees.seats.entered slot (by simp [stands])
    cases stands.symm.trans (agrees.seats.stands begun member slot known)
    refine .inr ⟨begun, slot, after, ⟨member, fun other member' distinct => ?_⟩, known, popped,
      layout, ordered, clock, content⟩
    obtain ⟨slot', known'⟩ := agrees.seats.seated other member'
    have notAfter := first slot' _ (agrees.seats.stands other member' slot' known')
    exact lt_of_le_of_ne notAfter fun same =>
      distinct (agrees.seats.eq_of_rank member member' same).symm

/-- A lawful use is performed, and the heap agrees with the history after it. -/
theorem Agrees.step (agrees : history.Agrees (history.heap time) time) (lawful : history.Lawful)
    (found : history.uses[time]? = some use) :
    ∃ after reply, container.step (history.heap time) use = .ok (after, reply) ∧
      history.Agrees after (time + 1) := by
  have clock := clock_succ found
  have seats := agrees.seats
  cases use with
  | push key =>
    obtain ⟨slot, after, pushed, layout, vacant, content, clock'⟩ := push_ok agrees.layout key
    have known : history.slot? time = some slot := Container.slot?_of_push found pushed
    have stays := seats.stays (by simp [found])
    refine ⟨after, _, Container.step_of_push pushed, layout,
      agrees.ordered.push agrees.layout pushed, ?_, ?_⟩
    · rw [clock', agrees.clock, clock]
      rfl
    · have started : history.standing time (time + 1) =
          ⟨key, 1, (history.heap time).clock + 1⟩ := by
        rw [standing_start found, agrees.clock, clock]
        rfl
      rw [content, ← started, present, found]
      exact stays.insert vacant known
  | touch slot =>
    obtain ⟨begun, member, known⟩ := lawful time slot found
    have stands := seats.stands begun member slot known
    obtain ⟨after, bumped, layout, content, clock'⟩ := bump_ok agrees.layout stands
    refine ⟨after, _, Container.step_of_touch bumped, layout,
      agrees.ordered.bump agrees.layout stands bumped, ?_, ?_⟩
    · rw [clock', agrees.clock, clock]
      rfl
    · have raised := standing_touch (pushed_of_present member).1 known found
      rw [clock, ← agrees.clock] at raised
      have present : history.present (time + 1) = history.present time := by
        rw [present, found]
      rw [present, content]
      exact raised ▸ seats.renew member known found
  | pop =>
    have stays := seats.stays (by simp [found])
    rcases agrees.pop_cases with ⟨nobody, popped⟩ |
      ⟨begun, slot, after, least, known, popped, layout, ordered, clock', content⟩
    · refine ⟨_, _, Container.step_of_empty popped, agrees.layout, agrees.ordered,
        agrees.clock.trans clock.symm, ?_⟩
      rw [present_of_pop found, nobody, Finset.filter_empty, ← nobody]
      exact stays
    · refine ⟨after, _, Container.step_of_pop popped, layout, ordered,
        clock'.trans (agrees.clock.trans clock.symm), ?_⟩
      rw [present_of_least found least, content]
      exact stays.erase least.1 known

theorem agrees (lawful : history.Lawful) (time : Nat) :
    history.Agrees (history.heap time) time := by
  induction time with
  | zero => exact ⟨layout_empty, ordered_empty, rfl, history.seats_empty 0⟩
  | succ time ih =>
    cases found : history.uses[time]? with
    | some use =>
      obtain ⟨after, reply, stepped, agrees⟩ := ih.step lawful found
      have reached : history.heap (time + 1) = after := (Container.advances found stepped).1
      exact reached ▸ agrees
    | none =>
      have same : history.heap (time + 1) = history.heap time :=
        Container.state_succ_of_none found
      have present : history.present (time + 1) = history.present time := by
        rw [History.present, found]
      have clock : history.clock (time + 1) = history.clock time := by
        rw [History.clock, History.clock, List.take_add_one, found, Option.toList_none,
          List.append_nil]
      refine ⟨same ▸ ih.layout, same ▸ ih.ordered, ?_, ?_⟩
      · rw [same, ih.clock, clock]
      · rw [same, present]
        exact ih.seats.stays (by simp [found])

private theorem Agrees.distinct (agrees : history.Agrees heap time) : heap.Distinct := by
  intro slot slot' standing standing' stands stands' same
  obtain ⟨begun, member, known⟩ := agrees.seats.entered slot (by simp [stands])
  obtain ⟨begun', member', known'⟩ := agrees.seats.entered slot' (by simp [stands'])
  cases stands.symm.trans (agrees.seats.stands begun member slot known)
  cases stands'.symm.trans (agrees.seats.stands begun' member' slot' known')
  obtain rfl := agrees.seats.eq_of_rank member member' same
  exact Option.some.inj (known.symm.trans known')

end History

private theorem Layout.sound {heap : FrequencyHeap} (layout : heap.Layout) (ordered : heap.Ordered)
    (distinct : heap.Distinct) : heap.Sound := by
  have occupied : ∀ slot, heap.arena.get? slot ≠ none ↔ slot ∈ heap.heap := fun slot =>
    standing?_ne_none_iff.symm.trans layout.mem_iff.symm
  refine ⟨?_, layout.nodup, occupied, layout.tidy.nodup, ?_, ?_, distinct⟩
  · intro position below
    obtain ⟨slot, here⟩ := exists_slot below
    obtain ⟨entry, found, same⟩ := layout.placed position slot here
    exact ⟨slot, entry, here, found, same⟩
  · intro slot
    rw [layout.tidy.vacant, ← occupied, not_not]
  · intro position parent child standing standing' below atParent atChild stands stands'
    have notAfter := ordered position below
    rw [rankAt_of_slot atParent stands, rankAt_of_slot atChild stands', WithTop.coe_le_coe]
      at notAfter
    refine lt_of_le_of_ne notAfter fun same => ?_
    obtain rfl := distinct parent child standing standing' stands stands' same
    have equal := layout.injective atParent atChild
    omega

namespace History

/-- As long as only slots of keys that are in the heap are touched, heaps by frequency are priority
queues. -/
theorem priorityQueue {history : History} (lawful : history.Lawful) : history.PriorityQueue where
  runs := by
    refine Container.runs_of_step fun moment use found => ?_
    obtain ⟨after, reply, stepped, -⟩ := (history.agrees lawful moment).step lawful found
    exact ⟨after, reply, stepped⟩
  sound time :=
    have agrees := history.agrees lawful time
    agrees.layout.sound agrees.ordered agrees.distinct
  entries := by
    intro time slot standing
    have seats := (history.agrees lawful time).seats
    constructor
    · intro stands
      obtain ⟨begun, member, known⟩ := seats.entered slot (by simp [stands])
      exact ⟨begun, member, known,
        Option.some.inj (stands.symm.trans (seats.stands begun member slot known))⟩
    · rintro ⟨begun, member, known, rfl⟩
      exact seats.stands begun member slot known
  seated time := (history.agrees lawful time).seats.seated
  single time := (history.agrees lawful time).seats.single
  pops := by
    intro time
    rcases (history.agrees lawful time).pop_cases with nothing |
      ⟨begun, slot, after, least, -, popped, -⟩
    · exact .inl nothing
    · exact .inr ⟨begun, after, least, popped⟩
  sorted := by
    intro time
    have agrees := history.agrees lawful time
    exact sorted_drains agrees.layout agrees.ordered agrees.distinct

/-- A key that is popped leaves its slot to another one, which is touched and popped in turn. -/
def recycled : History :=
  ⟨[.push "Tom", .push "Sam", .touch 0, .pop, .push "Jack", .touch 1, .touch 0, .pop]⟩

private theorem lawful_recycled : recycled.Lawful := by
  intro moment slot found
  have below : moment < 8 := (List.getElem?_eq_some_iff.mp found).1
  interval_cases moment <;> cases found
  all_goals decide +kernel

theorem priorityQueue_recycled : recycled.Lawful ∧ recycled.PriorityQueue :=
  ⟨lawful_recycled, priorityQueue lawful_recycled⟩

/-- The last pop answers the key that got the slot of the one that left before. -/
example : recycled.slot? 1 = recycled.slot? 4 ∧
    container.reply? recycled.uses 7 = some (.taken (some "Jack")) := by
  decide +kernel

end History

end PeerCache.Eviction.FrequencyHeap
