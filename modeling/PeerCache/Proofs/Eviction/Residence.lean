import PeerCache.Proofs.Eviction.Tracking

/-! # Residences

A key is tracked for a while, from the time at which it is pushed to the time at which it is popped,
and is touched now and then. Which keys leave first is decided by when these residences began, how
often the keys were touched, and when they were touched last. `Follows` says of a tracker that it is
arranged like this, whatever slots the keys are under and whatever was under these slots before. It
is kept by every operation, and the order of eviction is read off from it.
-/

namespace PeerCache.Eviction

/-- For how long a key has been tracked, and how it was touched. -/
structure Residence where
  /-- When the key was pushed. -/
  begun : Nat
  /-- How often the key was touched, the push included. -/
  frequency : Nat
  /-- When the key was touched last. -/
  last : Nat
deriving DecidableEq, Repr

namespace Residence

/-- The residence of a key that is pushed now. -/
def start (now : Nat) : Residence := ⟨now, 1, now⟩

/-- A residence with one more touch, now. -/
def touch (residence : Residence) (now : Nat) : Residence :=
  { residence with frequency := residence.frequency + 1, last := now }

end Residence

namespace Policy

/-- Which of two residences is the first to end. -/
def Precedes : Policy → Residence → Residence → Prop
  | .lru, first, second => first.last < second.last
  | .fifo, first, second => first.begun < second.begun
  | .lfu, first, second => first.frequency < second.frequency ∨
      first.frequency = second.frequency ∧ first.last < second.last

/-- Slots are in the order in which the residences under them are going to end. -/
def Arranges (policy : Policy) (residents : Nat → Option Residence) (slots : List Nat) : Prop :=
  slots.Pairwise fun first second => ∀ residence residence',
    residents first = some residence → residents second = some residence' →
    policy.Precedes residence residence'

variable {policy : Policy} {residents : Nat → Option Residence} {slots : List Nat} {slot : Nat}

private theorem Arranges.update (arranges : policy.Arranges residents slots)
    (outside : slot ∉ slots) (resident : Option Residence) :
    policy.Arranges (Function.update residents slot resident) slots := by
  refine List.Pairwise.imp_of_mem ?_ arranges
  intro first second inFirst inSecond precedes residence residence' here here'
  rw [Function.update_of_ne (ne_of_mem_of_not_mem inFirst outside)] at here
  rw [Function.update_of_ne (ne_of_mem_of_not_mem inSecond outside)] at here'
  exact precedes residence residence' here here'

/-- The residence that is going to end last is that of the last slot. -/
private theorem Arranges.concat (arranges : policy.Arranges residents slots)
    (outside : slot ∉ slots) {resident : Residence}
    (precedes : ∀ other residence, residents other = some residence →
      policy.Precedes residence resident) :
    policy.Arranges (Function.update residents slot (some resident)) (slots ++ [slot]) := by
  refine List.pairwise_append.mpr ⟨arranges.update outside _, List.pairwise_singleton _ _, ?_⟩
  intro other member last isLast residence residence' here here'
  obtain rfl := List.mem_singleton.mp isLast
  rw [Function.update_of_ne (ne_of_mem_of_not_mem member outside)] at here
  rw [Function.update_self, Option.some.injEq] at here'
  subst here'
  exact precedes other residence here

private theorem Arranges.touch (arranges : Policy.fifo.Arranges residents slots)
    {residence : Residence} (resides : residents slot = some residence) (now : Nat) :
    Policy.fifo.Arranges (Function.update residents slot (some (residence.touch now))) slots := by
  have begun (other : Nat) (found : Residence)
      (here : Function.update residents slot (some (residence.touch now)) other = some found) :
      ∃ before, residents other = some before ∧ before.begun = found.begun := by
    by_cases same : other = slot
    · subst same
      rw [Function.update_self, Option.some.injEq] at here
      exact ⟨residence, resides, here ▸ rfl⟩
    · rw [Function.update_of_ne same] at here
      exact ⟨found, here, rfl⟩
  refine List.Pairwise.imp ?_ arranges
  intro first second precedes found found' here here'
  obtain ⟨before, resides, same⟩ := begun first found here
  obtain ⟨before', resides', same'⟩ := begun second found' here'
  have earlier : before.begun < before'.begun := precedes before before' resides resides'
  rw [same, same'] at earlier
  exact earlier

end Policy

/-! ## Lists of keys -/

namespace LinkedList

/-- The list stands for places in the order in which the residences under them are going to end. -/
def Arranged (keys : LinkedList String) (policy : Policy) (residents : Nat → Option Residence) :
    Prop :=
  ∃ places, keys.Represents places ∧ policy.Arranges residents (slots places)

variable {keys after : LinkedList String} {policy : Policy} {residents : Nat → Option Residence}
  {slot : Nat} {key : String}

private theorem Arranged.pushBack (arranged : keys.Arranged policy residents)
    (pushed : keys.pushBack key = .ok (slot, after)) {resident : Residence}
    (precedes : ∀ other residence, residents other = some residence →
      policy.Precedes residence resident) :
    after.Arranged policy (Function.update residents slot (some resident)) := by
  obtain ⟨places, represents, arranges⟩ := arranged
  obtain ⟨slot', after', pushed', represents'⟩ := pushBack_ok represents key
  cases pushed.symm.trans pushed'
  have outside : slot ∉ slots places := by simpa using represents'.nodup_middle.1
  refine ⟨_, represents', ?_⟩
  rw [slots_append]
  exact arranges.concat outside precedes

private theorem Arranged.moveToBack (arranged : keys.Arranged policy residents)
    (tracked : keys.value? slot = some key) (moved : keys.moveToBack slot = .ok after)
    {resident : Residence} (precedes : ∀ other residence, residents other = some residence →
      policy.Precedes residence resident) :
    after.Arranged policy (Function.update residents slot (some resident)) := by
  obtain ⟨places, represents, arranges⟩ := arranged
  obtain ⟨left, right, rfl⟩ := List.append_of_mem (represents.value?_eq_some_iff.mp tracked)
  obtain ⟨after', moved', represents'⟩ := moveToBack_ok represents
  cases moved.symm.trans moved'
  obtain ⟨outside, -⟩ := represents.nodup_middle
  refine ⟨_, represents', ?_⟩
  rw [slots_append]
  refine Policy.Arranges.concat (arranges.sublist ?_) outside precedes
  rw [slots_append, slots_append, slots_cons]
  exact (List.sublist_cons_self slot _).append_left _

private theorem Arranged.popFront (arranged : keys.Arranged policy residents)
    (popped : keys.popFront = .ok (some (key, after))) :
    ∃ slot, keys.value? slot = some key ∧
      after.value? = Function.update keys.value? slot none ∧
      after.Arranged policy (Function.update residents slot none) := by
  obtain ⟨places, represents, arranges⟩ := arranged
  cases places with
  | nil =>
    rw [popFront_nil represents] at popped
    cases popped
  | cons place rest =>
    obtain ⟨slot, value⟩ := place
    obtain ⟨after', popped', represents', tracked, content⟩ := Tracker.popFront_values represents
    cases popped.symm.trans popped'
    have outside : slot ∉ slots rest := (List.nodup_cons.mp represents.nodup).1
    exact ⟨slot, tracked, content, rest, represents',
      Policy.Arranges.update (List.Pairwise.of_cons arranges) outside none⟩

private theorem Arranged.order (arranged : keys.Arranged policy residents) :
    ∃ (slots : List Nat) (listed : List String), keys.toList = .ok listed ∧ slots.Nodup ∧
      (∀ slot, slot ∈ slots ↔ keys.value? slot ≠ none) ∧
      slots.map keys.value? = listed.map some ∧ policy.Arranges residents slots := by
  obtain ⟨places, represents, arranges⟩ := arranged
  obtain ⟨listed, ordered, used, same⟩ := Tracker.toList_values represents
  exact ⟨_, listed, ordered, represents.nodup, used, same, arranges⟩

end LinkedList

/-! ## Heaps of keys -/

namespace FrequencyHeap

/-- The key under a slot has this standing in the heap, and this residence. -/
def Seats (heap : FrequencyHeap) (residents : Nat → Option Residence) (slot : Nat)
    (standing : Standing) (residence : Residence) : Prop :=
  heap.standing? slot = some standing ∧ residents slot = some residence

/-- The keys in a heap stand as their residences do. The clock of the heap does not tell the time,
but it tells earlier times from later ones. -/
structure Ranks (heap : FrequencyHeap) (residents : Nat → Option Residence) : Prop where
  layout : heap.Layout
  frequency : ∀ slot standing residence, heap.Seats residents slot standing residence →
    standing.frequency = residence.frequency
  touched : ∀ first second standing standing' residence residence', first ≠ second →
    heap.Seats residents first standing residence →
    heap.Seats residents second standing' residence' →
    (standing.touched < standing'.touched ∧ residence.last < residence'.last) ∨
      (standing'.touched < standing.touched ∧ residence'.last < residence.last)
  clocked : ∀ slot standing residence, heap.Seats residents slot standing residence →
    standing.touched ≤ heap.clock

variable {heap after : FrequencyHeap} {residents : Nat → Option Residence} {slot : Nat}
  {key : String}

/-- Of two keys, the one touched earlier stands before the other if they were touched as often. -/
theorem Ranks.precedes (ranks : heap.Ranks residents) {first second : Nat}
    (distinct : first ≠ second) {standing standing' : Standing} {residence residence' : Residence}
    (seats : heap.Seats residents first standing residence)
    (seats' : heap.Seats residents second standing' residence')
    (notAfter : standing.frequency < standing'.frequency ∨
      standing.frequency = standing'.frequency ∧ standing.touched ≤ standing'.touched) :
    Policy.lfu.Precedes residence residence' := by
  rw [Policy.Precedes, ← ranks.frequency first standing residence seats,
    ← ranks.frequency second standing' residence' seats']
  refine notAfter.imp_right fun ⟨same, earlier⟩ => ⟨same, ?_⟩
  rcases ranks.touched first second standing standing' residence residence' distinct seats seats'
    with ⟨-, before⟩ | ⟨later, -⟩
  · exact before
  · omega

private theorem seats_update {content : Option Standing} {resident : Option Residence}
    (same : after.standing? = Function.update heap.standing? slot content) {other : Nat}
    {standing : Standing} {residence : Residence}
    (seats : after.Seats (Function.update residents slot resident) other standing residence) :
    (other = slot ∧ content = some standing ∧ resident = some residence) ∨
      other ≠ slot ∧ heap.Seats residents other standing residence := by
  obtain ⟨stands, resides⟩ := seats
  rw [same] at stands
  by_cases here : other = slot
  · subst here
    rw [Function.update_self] at stands resides
    exact .inl ⟨rfl, stands, resides⟩
  · rw [Function.update_of_ne here] at stands resides
    exact .inr ⟨here, stands, resides⟩

/-- The key that is touched now stands behind all others that were touched as often. -/
private theorem Ranks.renew (ranks : heap.Ranks residents) (layout : after.Layout)
    {resident : Residence}
    (content : after.standing? =
      Function.update heap.standing? slot (some ⟨key, resident.frequency, heap.clock + 1⟩))
    (clock : after.clock = heap.clock + 1)
    (past : ∀ other residence, residents other = some residence → residence.last < resident.last) :
    after.Ranks (Function.update residents slot (some resident)) where
  layout := layout
  frequency := by
    intro other standing residence seats
    rcases seats_update content seats with ⟨-, ⟨⟩, ⟨⟩⟩ | ⟨-, seats⟩
    · rfl
    · exact ranks.frequency other standing residence seats
  touched := by
    intro first second standing standing' residence residence' distinct seats seats'
    rcases seats_update content seats with ⟨here, ⟨⟩, ⟨⟩⟩ | ⟨-, seats⟩ <;>
      rcases seats_update content seats' with ⟨here', ⟨⟩, ⟨⟩⟩ | ⟨-, seats'⟩
    · exact absurd (here.trans here'.symm) distinct
    · exact .inr ⟨Nat.lt_succ_of_le (ranks.clocked _ _ _ seats'), past _ _ seats'.2⟩
    · exact .inl ⟨Nat.lt_succ_of_le (ranks.clocked _ _ _ seats), past _ _ seats.2⟩
    · exact ranks.touched _ _ _ _ _ _ distinct seats seats'
  clocked := by
    intro other standing residence seats
    rw [clock]
    rcases seats_update content seats with ⟨-, ⟨⟩, -⟩ | ⟨-, seats⟩
    · exact le_rfl
    · exact Nat.le_succ_of_le (ranks.clocked _ _ _ seats)

private theorem Ranks.vacate (ranks : heap.Ranks residents) (layout : after.Layout)
    (content : after.standing? = Function.update heap.standing? slot none)
    (clock : after.clock = heap.clock) : after.Ranks (Function.update residents slot none) := by
  have remains (other : Nat) (standing : Standing) (residence : Residence)
      (seats : after.Seats (Function.update residents slot none) other standing residence) :
      heap.Seats residents other standing residence := by
    rcases seats_update content seats with ⟨-, ⟨⟩, -⟩ | ⟨-, seats⟩
    exact seats
  refine ⟨layout, ?_, ?_, ?_⟩
  · intro other standing residence seats
    exact ranks.frequency other standing residence (remains _ _ _ seats)
  · intro first second standing standing' residence residence' distinct seats seats'
    exact ranks.touched _ _ _ _ _ _ distinct (remains _ _ _ seats) (remains _ _ _ seats')
  · intro other standing residence seats
    rw [clock]
    exact ranks.clocked _ _ _ (remains _ _ _ seats)

/-! ## The order of a heap -/

theorem notAfter_iff {first second : Ranked} : first.notAfter second = true ↔
    first.frequency < second.frequency ∨
      first.frequency = second.frequency ∧ first.touched ≤ second.touched := by
  simp only [Ranked.notAfter, Ranked.before, Bool.not_eq_true', Bool.or_eq_false_iff,
    Bool.and_eq_false_imp, decide_eq_false_iff_not, beq_iff_eq]
  omega

theorem ranking_pairwise {entries : List Ranked} (ranked : heap.ranking = .ok entries) :
    entries.Pairwise fun first second => first.notAfter second = true := by
  obtain ⟨read, -, same⟩ := Checked.bind_eq_ok_iff.mp ranked
  cases same
  refine List.pairwise_mergeSort ?_ ?_ read
  · intro first second third
    simp only [notAfter_iff]
    omega
  · intro first second
    simp only [Bool.or_eq_true, notAfter_iff]
    omega

private theorem Ranks.order (ranks : heap.Ranks residents) :
    ∃ (slots : List Nat) (listed : List String), heap.sorted = .ok listed ∧ slots.Nodup ∧
      (∀ slot, slot ∈ slots ↔ heap.standing? slot ≠ none) ∧
      (slots.map fun slot => (heap.standing? slot).map Standing.key) = listed.map some ∧
      Policy.lfu.Arranges residents slots := by
  obtain ⟨entries, ranked, rearranged⟩ := ranking_ok ranks.layout
  obtain ⟨slots, listed, same⟩ : ∃ slots : List Nat,
      entries.map (some ∘ Ranked.standing) = slots.map heap.standing? ∧
        slots.Perm heap.heap.toList := by
    have composed := (congrFun₂ (List.eq_map_comp_perm heap.standing?)
      (entries.map (some ∘ Ranked.standing)) heap.heap.toList).mpr rearranged.symm
    exact composed
  have used : ∀ slot, slot ∈ slots ↔ heap.standing? slot ≠ none := by
    intro slot
    rw [same.mem_iff, Array.mem_toList_iff, ranks.layout.mem_iff]
  have nodup : slots.Nodup := same.nodup_iff.mpr ranks.layout.toPlaced.nodup
  refine ⟨slots, entries.map Ranked.key, ?_, nodup, used, ?_, ?_⟩
  · simp [sorted, ranked, bind, Except.bind, pure, Except.pure]
  · have keys := congrArg (List.map (Option.map Standing.key)) listed
    rw [List.map_map, List.map_map] at keys
    rw [List.map_map]
    exact keys.symm
  · have ordered : (slots.map heap.standing?).Pairwise fun first second =>
        ∀ standing standing', first = some standing → second = some standing' →
          standing.frequency < standing'.frequency ∨
            standing.frequency = standing'.frequency ∧ standing.touched ≤ standing'.touched := by
      rw [← listed, List.pairwise_map]
      refine (ranking_pairwise ranked).imp ?_
      rintro first second sooner _ _ ⟨⟩ ⟨⟩
      exact notAfter_iff.mp sooner
    rw [List.pairwise_map] at ordered
    refine List.Pairwise.imp_of_mem ?_ (ordered.and nodup)
    rintro first second inFirst inSecond ⟨sooner, distinct⟩ residence residence' resides resides'
    obtain ⟨standing, stands⟩ := Option.ne_none_iff_exists'.mp ((used first).mp inFirst)
    obtain ⟨standing', stands'⟩ := Option.ne_none_iff_exists'.mp ((used second).mp inSecond)
    exact ranks.precedes distinct ⟨stands, resides⟩ ⟨stands', resides'⟩
      (sooner standing standing' stands stands')

end FrequencyHeap

/-! ## Trackers -/

namespace Tracker

/-- The container of a tracker is in order, and arranged by residences. -/
def Arranged : Tracker → (Nat → Option Residence) → Prop
  | .lru keys, residents => keys.Arranged .lru residents
  | .fifo keys, residents => keys.Arranged .fifo residents
  | .lfu keys, residents => keys.Ranks residents

/-- The slots of a tracker have residences that began in the past, and it is arranged by them. -/
structure Follows (tracker : Tracker) (residents : Nat → Option Residence) (now : Nat) : Prop where
  arranged : tracker.Arranged residents
  resident : ∀ slot, residents slot = none ↔ tracker.keyAt? slot = none
  past : ∀ slot residence, residents slot = some residence →
    residence.begun < now ∧ residence.last < now

variable {tracker after : Tracker} {residents : Nat → Option Residence} {now slot : Nat}
  {key : String}

private theorem Arranged.sound (arranged : tracker.Arranged residents) : tracker.Sound := by
  cases tracker with
  | lru keys =>
    obtain ⟨places, represents, -⟩ := arranged
    exact ⟨places, represents⟩
  | fifo keys =>
    obtain ⟨places, represents, -⟩ := arranged
    exact ⟨places, represents⟩
  | lfu keys => exact arranged.layout

theorem follows_empty (policy : Policy) (now : Nat) :
    (empty policy).Follows (fun _ => none) now := by
  refine ⟨?_, fun slot => by simp [keyAt?_empty], by simp⟩
  cases policy with
  | lru => exact ⟨[], LinkedList.represents_empty, List.Pairwise.nil⟩
  | fifo => exact ⟨[], LinkedList.represents_empty, List.Pairwise.nil⟩
  | lfu => exact ⟨FrequencyHeap.layout_empty, by simp [FrequencyHeap.Seats],
      by simp [FrequencyHeap.Seats], by simp [FrequencyHeap.Seats]⟩

theorem Follows.later (follows : tracker.Follows residents now) {later : Nat}
    (bound : now ≤ later) : tracker.Follows residents later where
  arranged := follows.arranged
  resident := follows.resident
  past slot residence resides := by
    obtain ⟨begun, last⟩ := follows.past slot residence resides
    omega

theorem Follows.push (follows : tracker.Follows residents now)
    (pushed : tracker.push key = .ok (slot, after)) :
    after.Follows (Function.update residents slot (some (.start now))) (now + 1) := by
  obtain ⟨slot', after', pushed', -, -, content, -⟩ := push_ok follows.arranged.sound key
  cases pushed.symm.trans pushed'
  refine ⟨?_, ?_, ?_⟩
  · have arranged := follows.arranged
    cases tracker with
    | lru keys =>
      obtain ⟨⟨slot, keys'⟩, appended, same⟩ := Checked.bind_eq_ok_iff.mp pushed
      cases same
      exact arranged.pushBack appended fun _ _ resides => (follows.past _ _ resides).2
    | fifo keys =>
      obtain ⟨⟨slot, keys'⟩, appended, same⟩ := Checked.bind_eq_ok_iff.mp pushed
      cases same
      exact arranged.pushBack appended fun _ _ resides => (follows.past _ _ resides).1
    | lfu keys =>
      obtain ⟨⟨slot, keys'⟩, inserted, same⟩ := Checked.bind_eq_ok_iff.mp pushed
      cases same
      obtain ⟨slot', after', inserted', layout, -, standing, clock⟩ :=
        FrequencyHeap.push_ok arranged.layout key
      cases inserted.symm.trans inserted'
      exact arranged.renew layout standing clock fun _ _ resides => (follows.past _ _ resides).2
  · intro other
    rw [content]
    by_cases same : other = slot
    · simp [same]
    · rw [Function.update_of_ne same, Function.update_of_ne same, follows.resident]
  · intro other residence resides
    by_cases same : other = slot
    · subst same
      rw [Function.update_self] at resides
      cases resides
      exact ⟨Nat.lt_succ_self _, Nat.lt_succ_self _⟩
    · rw [Function.update_of_ne same] at resides
      exact (follows.later (Nat.le_succ now)).past other residence resides

theorem Follows.touch (follows : tracker.Follows residents now) {residence : Residence}
    (resides : residents slot = some residence) (touched : tracker.touch slot = .ok after) :
    after.Follows (Function.update residents slot (some (residence.touch now))) (now + 1) := by
  obtain ⟨key, tracked⟩ : ∃ key, tracker.keyAt? slot = some key := by
    rw [← Option.ne_none_iff_exists', ne_eq, ← follows.resident, resides]
    simp
  obtain ⟨after', touched', -, content, -⟩ := touch_ok follows.arranged.sound tracked
  cases touched.symm.trans touched'
  refine ⟨?_, ?_, ?_⟩
  · have arranged := follows.arranged
    cases tracker with
    | lru keys =>
      obtain ⟨keys', moved, same⟩ := Checked.bind_eq_ok_iff.mp touched
      cases same
      exact arranged.moveToBack tracked moved fun _ _ resides => (follows.past _ _ resides).2
    | fifo keys =>
      cases touched
      obtain ⟨places, represents, arranges⟩ := arranged
      exact ⟨places, represents, arranges.touch resides now⟩
    | lfu keys =>
      obtain ⟨keys', bumped, same⟩ := Checked.bind_eq_ok_iff.mp touched
      cases same
      obtain ⟨standing, stands, rfl⟩ := Option.map_eq_some_iff.mp tracked
      obtain ⟨after', bumped', layout, content, clock⟩ :=
        FrequencyHeap.bump_ok arranged.layout stands
      cases bumped.symm.trans bumped'
      rw [arranged.frequency slot standing residence ⟨stands, resides⟩] at content
      exact arranged.renew layout content clock fun _ _ resides => (follows.past _ _ resides).2
  · intro other
    rw [content]
    by_cases same : other = slot
    · simp [same, tracked]
    · rw [Function.update_of_ne same, follows.resident]
  · intro other residence' resides'
    by_cases same : other = slot
    · subst same
      rw [Function.update_self] at resides'
      cases resides'
      exact ⟨Nat.lt_succ_of_lt (follows.past _ _ resides).1, Nat.lt_succ_self _⟩
    · rw [Function.update_of_ne same] at resides'
      exact (follows.later (Nat.le_succ now)).past other residence' resides'

theorem Follows.pop (follows : tracker.Follows residents now)
    (popped : tracker.pop = .ok (some (key, after))) :
    ∃ slot, tracker.keyAt? slot = some key ∧
      after.Follows (Function.update residents slot none) now := by
  have vacates : ∃ slot, tracker.keyAt? slot = some key ∧
      after.keyAt? = Function.update tracker.keyAt? slot none ∧
      after.Arranged (Function.update residents slot none) := by
    have arranged := follows.arranged
    cases tracker with
    | lru keys =>
      obtain ⟨taken, front, same⟩ := Checked.bind_eq_ok_iff.mp popped
      obtain ⟨⟨key, keys'⟩, rfl, same⟩ := Option.map_eq_some_iff.mp (Except.ok.inj same)
      cases same
      exact arranged.popFront front
    | fifo keys =>
      obtain ⟨taken, front, same⟩ := Checked.bind_eq_ok_iff.mp popped
      obtain ⟨⟨key, keys'⟩, rfl, same⟩ := Option.map_eq_some_iff.mp (Except.ok.inj same)
      cases same
      exact arranged.popFront front
    | lfu keys =>
      obtain ⟨taken, front, same⟩ := Checked.bind_eq_ok_iff.mp popped
      obtain ⟨⟨key, keys'⟩, rfl, same⟩ := Option.map_eq_some_iff.mp (Except.ok.inj same)
      cases same
      rcases FrequencyHeap.pop_ok arranged.layout with ⟨nothing, -⟩ |
        ⟨slot, standing, after', front', layout, stands, content, clock⟩
      · cases front.symm.trans nothing
      · cases front.symm.trans front'
        refine ⟨slot, by simp [keyAt?, stands], ?_, arranged.vacate layout content clock⟩
        funext other
        simp only [keyAt?, content, FrequencyHeap.map_update]
        rfl
  obtain ⟨slot, tracked, content, arranged⟩ := vacates
  refine ⟨slot, tracked, arranged, ?_, ?_⟩
  · intro other
    rw [content]
    by_cases same : other = slot
    · simp [same]
    · rw [Function.update_of_ne same, Function.update_of_ne same, follows.resident]
  · intro other residence resides
    by_cases same : other = slot
    · simp [same] at resides
    · rw [Function.update_of_ne same] at resides
      exact follows.past other residence resides

/-- The order of eviction is that of the residences. -/
theorem Follows.order (follows : tracker.Follows residents now) :
    ∃ (slots : List Nat) (keys : List String), tracker.order = .ok keys ∧ slots.Nodup ∧
      (∀ slot, slot ∈ slots ↔ tracker.keyAt? slot ≠ none) ∧
      slots.map tracker.keyAt? = keys.map some ∧ tracker.policy.Arranges residents slots := by
  have arranged := follows.arranged
  cases tracker with
  | lru keys => exact arranged.order
  | fifo keys => exact arranged.order
  | lfu keys =>
    obtain ⟨slots, listed, ordered, nodup, used, same, arranges⟩ := arranged.order
    exact ⟨slots, listed, ordered, nodup, fun slot => by simp [used, keyAt?], same, arranges⟩

end Tracker

end PeerCache.Eviction
