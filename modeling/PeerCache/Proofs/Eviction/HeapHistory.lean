import PeerCache.Proofs.Eviction.HeapOrder
import PeerCache.Proofs.Eviction.Usage

/-! # What a history tells about a heap

Keys are pushed into a heap, touched under the slots that were returned for them, and popped. From
this history it can be told which keys are in the heap, how often each was touched and when that was
for the last time, whatever slots were reused. No two keys in the heap rank alike, since no two are
touched at once.
-/

namespace PeerCache.Eviction.FrequencyHeap

/-- A heap that starts empty and how it is used. -/
structure History where
  uses : List (Use String)

namespace History

section Definitions

variable (history : History)

/-- The heap at a time, which is the one that the use at that time meets. -/
def heap (time : Nat) : FrequencyHeap := container.state history.uses time

/-- The slot that is returned for the key that is pushed at a moment. -/
def slot? (moment : Nat) : Option Nat := container.slot? history.uses moment

/-- The key that is pushed at a moment. -/
def key (moment : Nat) : String :=
  match history.uses[moment]? with
  | some (.push key) => key
  | _ => ""

/-- The logical time, which goes on with every push and every touch. -/
def clock (time : Nat) : Nat := (history.uses.take time).countP Use.ticks

/-- The moments at which the slot that was returned for a key is touched. -/
def touches (begun time : Nat) : Finset Nat :=
  (Finset.Ioo begun time).filter fun moment =>
    ∃ slot ∈ history.slot? begun, history.uses[moment]? = some (.touch slot)

/-- The moment of the last touch of a key, or of its push if there is none. -/
def last (begun time : Nat) : Nat := max begun ((history.touches begun time).sup id)

/-- What the history tells about a key that was pushed. -/
def standing (begun time : Nat) : Standing where
  key := history.key begun
  frequency := 1 + (history.touches begun time).card
  touched := history.clock (history.last begun time + 1)

/-- Of the keys that were pushed at some moments, this one ranks first. -/
def Least (moments : Finset Nat) (begun time : Nat) : Prop :=
  begun ∈ moments ∧ ∀ other ∈ moments, other ≠ begun →
    (history.standing begun time).rank < (history.standing other time).rank

instance (moments : Finset Nat) (begun time : Nat) :
    Decidable (history.Least moments begun time) :=
  inferInstanceAs (Decidable (_ ∧ _))

/-- The moments at which those keys were pushed that are in the heap. A pop takes out the least. -/
def present : Nat → Finset Nat
  | 0 => ∅
  | time + 1 =>
    match history.uses[time]? with
    | some (.push _) => insert time (present time)
    | some .pop => (present time).filter fun begun => ¬ history.Least (present time) begun time
    | some (.touch _) | none => present time

/-- Only slots of keys that are in the heap are touched. -/
def Lawful : Prop := ∀ moment slot, history.uses[moment]? = some (.touch slot) →
  ∃ begun ∈ history.present moment, history.slot? begun = some slot

/-- What is under the slots is what the history tells about the keys that were pushed at some
moments. -/
structure Seats (content : Nat → Option Standing) (moments : Finset Nat) (time : Nat) : Prop where
  seated : ∀ begun ∈ moments, ∃ slot, history.slot? begun = some slot
  stands : ∀ begun ∈ moments, ∀ slot, history.slot? begun = some slot →
    content slot = some (history.standing begun time)
  entered : ∀ slot, content slot ≠ none → ∃ begun ∈ moments, history.slot? begun = some slot
  single : ∀ begun ∈ moments, ∀ begun' ∈ moments,
    history.slot? begun = history.slot? begun' → begun = begun'

end Definitions

variable {history : History} {time begun begun' moment slot : Nat} {key : String}
  {use : Use String}

/-! ## What the history tells -/

theorem present_of_pop (found : history.uses[time]? = some .pop) :
    history.present (time + 1) = (history.present time).filter fun begun =>
      ¬ history.Least (history.present time) begun time := by
  rw [present, found]

theorem present_of_least (found : history.uses[time]? = some .pop)
    (least : history.Least (history.present time) begun time) :
    history.present (time + 1) = (history.present time).erase begun := by
  rw [present_of_pop found]
  ext other
  rw [Finset.mem_filter, Finset.mem_erase, and_comm, and_congr_left_iff]
  intro member
  refine not_congr ⟨fun least' => ?_, fun same => same ▸ least⟩
  by_contra distinct
  exact (least.2 other member distinct).asymm (least'.2 begun least.1 (Ne.symm distinct))

theorem pushed_of_present (member : begun ∈ history.present time) :
    begun < time ∧ ∃ key, history.uses[begun]? = some (.push key) := by
  induction time with
  | zero => exact absurd member (Finset.notMem_empty begun)
  | succ time ih =>
    have earlier (member : begun ∈ history.present time) :
        begun < time + 1 ∧ ∃ key, history.uses[begun]? = some (.push key) :=
      ⟨Nat.lt_succ_of_lt (ih member).1, (ih member).2⟩
    rw [present] at member
    split at member
    case h_1 key found =>
      rcases Finset.mem_insert.mp member with rfl | member
      · exact ⟨Nat.lt_succ_self begun, key, found⟩
      · exact earlier member
    case h_2 => exact earlier (Finset.mem_filter.mp member).1
    case h_3 | h_4 => exact earlier member

theorem clock_succ (found : history.uses[time]? = some use) :
    history.clock (time + 1) = history.clock time + if use.ticks then 1 else 0 := by
  rw [clock, clock, List.take_add_one, found, Option.toList_some, List.countP_append,
    List.countP_singleton]

private theorem clock_le {later : Nat} (before : time ≤ later) :
    history.clock time ≤ history.clock later :=
  (List.take_sublist_take_left before).countP_le

/-- The logical time tells moments apart at which it goes on. -/
private theorem eq_of_clock {use' : Use String} (found : history.uses[begun]? = some use)
    (ticks : use.ticks = true) (found' : history.uses[begun']? = some use')
    (ticks' : use'.ticks = true) (same : history.clock (begun + 1) = history.clock (begun' + 1)) :
    begun = begun' := by
  have first := clock_succ found
  have second := clock_succ found'
  rw [if_pos ticks] at first
  rw [if_pos ticks'] at second
  rcases Nat.lt_trichotomy begun begun' with before | same | before
  · have between := history.clock_le (show begun + 1 ≤ begun' from before)
    omega
  · exact same
  · have between := history.clock_le (show begun' + 1 ≤ begun from before)
    omega

private theorem mem_touches :
    moment ∈ history.touches begun time ↔ (begun < moment ∧ moment < time) ∧
    ∃ slot ∈ history.slot? begun, history.uses[moment]? = some (.touch slot) := by
  rw [touches, Finset.mem_filter, Finset.mem_Ioo]

private theorem last_cases (history : History) (begun time : Nat) :
    history.last begun time = begun ∨
    ∃ slot ∈ history.slot? begun, history.uses[history.last begun time]? = some (.touch slot) := by
  rcases (history.touches begun time).eq_empty_or_nonempty with none | some
  · exact .inl (by simp [last, none])
  · obtain ⟨moment, member, same⟩ := Finset.exists_mem_eq_sup _ some id
    rw [last, same, id]
    rcases max_cases begun moment with ⟨first, -⟩ | ⟨second, -⟩
    · exact .inl first
    · rw [second]
      exact .inr (mem_touches.mp member).2

private theorem exists_last (pushed : history.uses[begun]? = some (.push key)) (time : Nat) :
    ∃ use, history.uses[history.last begun time]? = some use ∧ use.ticks = true := by
  rcases history.last_cases begun time with same | ⟨slot, -, hit⟩
  · exact ⟨_, by rw [same, pushed], rfl⟩
  · exact ⟨_, hit, rfl⟩

theorem standing_start (pushed : history.uses[time]? = some (.push key)) :
    history.standing time (time + 1) = ⟨key, 1, history.clock (time + 1)⟩ := by
  have untouched : history.touches time (time + 1) = ∅ := by
    refine Finset.eq_empty_of_forall_notMem fun moment member => ?_
    have between := (mem_touches.mp member).1
    omega
  simp [standing, last, untouched, History.key, pushed]

theorem standing_touch (before : begun < time) (known : history.slot? begun = some slot)
    (found : history.uses[time]? = some (.touch slot)) :
    history.standing begun (time + 1) = ⟨history.key begun,
      (history.standing begun time).frequency + 1, history.clock (time + 1)⟩ := by
  have further : history.touches begun (time + 1) = insert time (history.touches begun time) := by
    ext moment
    rw [Finset.mem_insert, mem_touches, mem_touches]
    constructor
    · rintro ⟨between, hit⟩
      rcases Nat.lt_succ_iff_lt_or_eq.mp between.2 with earlier | rfl
      · exact .inr ⟨⟨between.1, earlier⟩, hit⟩
      · exact .inl rfl
    · rintro (rfl | ⟨between, hit⟩)
      · exact ⟨⟨before, Nat.lt_succ_self _⟩, slot, known, found⟩
      · exact ⟨⟨between.1, Nat.lt_succ_of_lt between.2⟩, hit⟩
  have fresh : time ∉ history.touches begun time := fun member =>
    ((mem_touches.mp member).1.2).false
  have bounded : (history.touches begun time).sup id ≤ time :=
    Finset.sup_le fun moment member => (mem_touches.mp member).1.2.le
  have latest : history.last begun (time + 1) = time := by
    rw [last, further, Finset.sup_insert, id, max_eq_left bounded, max_eq_right before.le]
  rw [standing, latest, further, Finset.card_insert_of_notMem fresh]
  rfl

private theorem standing_stays (missed : ∀ slot ∈ history.slot? begun,
    history.uses[time]? ≠ some (.touch slot)) :
    history.standing begun (time + 1) = history.standing begun time := by
  have same : history.touches begun (time + 1) = history.touches begun time := by
    ext moment
    rw [mem_touches, mem_touches]
    refine and_congr_left fun ⟨slot, known, hit⟩ => and_congr_right fun _ => ?_
    have other : moment ≠ time := by
      rintro rfl
      exact missed slot known hit
    omega
  rw [standing, standing, last, last, same]

/-! ## What is under the slots -/

section

variable {content : Nat → Option Standing} {moments : Finset Nat}

theorem seats_empty (history : History) (time : Nat) : history.Seats (fun _ => none) ∅ time := by
  refine ⟨?_, ?_, fun slot full => absurd rfl full, ?_⟩
  all_goals exact fun begun member => absurd member (Finset.notMem_empty begun)

theorem Seats.stays (seats : history.Seats content moments time)
    (missed : ∀ slot, history.uses[time]? ≠ some (.touch slot)) :
    history.Seats content moments (time + 1) where
  seated := seats.seated
  stands := by
    intro begun member slot known
    rw [seats.stands begun member slot known, standing_stays fun slot _ => missed slot]
  entered := seats.entered
  single := seats.single

theorem Seats.insert (seats : history.Seats content moments time) (vacant : content slot = none)
    (known : history.slot? begun = some slot) :
    history.Seats (Function.update content slot (some (history.standing begun time)))
      (insert begun moments) time := by
  have apart : ∀ other ∈ moments, history.slot? other ≠ some slot := by
    intro other member known'
    rw [seats.stands other member slot known'] at vacant
    cases vacant
  refine ⟨?_, ?_, ?_, ?_⟩
  · exact (Finset.forall_mem_insert ..).mpr ⟨⟨slot, known⟩, seats.seated⟩
  · intro other member slot' known'
    rcases Finset.mem_insert.mp member with rfl | member
    · cases known.symm.trans known'
      exact Function.update_self ..
    · have distinct : slot' ≠ slot := by
        rintro rfl
        exact apart other member known'
      rw [Function.update_of_ne distinct, seats.stands other member slot' known']
  · intro slot' full
    by_cases here : slot' = slot
    · exact ⟨begun, Finset.mem_insert_self .., here ▸ known⟩
    · rw [Function.update_of_ne here] at full
      obtain ⟨other, member, known'⟩ := seats.entered slot' full
      exact ⟨other, Finset.mem_insert_of_mem member, known'⟩
  · intro other member other' member' alike
    rcases Finset.mem_insert.mp member with rfl | stayed <;>
      rcases Finset.mem_insert.mp member' with rfl | stayed'
    · rfl
    · exact absurd (alike.symm.trans known) (apart other' stayed')
    · exact absurd (alike.trans known) (apart other stayed)
    · exact seats.single other stayed other' stayed' alike

theorem Seats.renew (seats : history.Seats content moments time) (member : begun ∈ moments)
    (known : history.slot? begun = some slot)
    (found : history.uses[time]? = some (.touch slot)) :
    history.Seats (Function.update content slot (some (history.standing begun (time + 1)))) moments
      (time + 1) := by
  refine ⟨seats.seated, ?_, ?_, seats.single⟩
  · intro other member' slot' known'
    by_cases here : slot' = slot
    · subst here
      obtain rfl := seats.single begun member other member' (known.trans known'.symm)
      exact Function.update_self ..
    · rw [Function.update_of_ne here, seats.stands other member' slot' known', standing_stays]
      rintro slot'' known'' hit
      cases known'.symm.trans known''
      cases found.symm.trans hit
      exact here rfl
  · intro slot' full
    by_cases here : slot' = slot
    · exact ⟨begun, member, here ▸ known⟩
    · rw [Function.update_of_ne here] at full
      exact seats.entered slot' full

theorem Seats.erase (seats : history.Seats content moments time) (member : begun ∈ moments)
    (known : history.slot? begun = some slot) :
    history.Seats (Function.update content slot none) (moments.erase begun) time := by
  refine ⟨?_, ?_, ?_, ?_⟩
  · exact fun other member' => seats.seated other (Finset.mem_of_mem_erase member')
  · intro other member' slot' known'
    obtain ⟨distinct, member'⟩ := Finset.mem_erase.mp member'
    have elsewhere : slot' ≠ slot := by
      rintro rfl
      exact distinct (seats.single other member' begun member (known'.trans known.symm))
    rw [Function.update_of_ne elsewhere, seats.stands other member' slot' known']
  · intro slot' full
    by_cases here : slot' = slot
    · simp [here] at full
    · rw [Function.update_of_ne here] at full
      obtain ⟨other, member', known'⟩ := seats.entered slot' full
      refine ⟨other, Finset.mem_erase.mpr ⟨?_, member'⟩, known'⟩
      rintro rfl
      exact here (Option.some.inj (known'.symm.trans known))
  · exact fun other member' other' member'' => seats.single other (Finset.mem_of_mem_erase member')
      other' (Finset.mem_of_mem_erase member'')

/-- No two keys in the heap rank alike. -/
theorem Seats.eq_of_rank (seats : history.Seats content (history.present time) time)
    (member : begun ∈ history.present time) (member' : begun' ∈ history.present time)
    (same : (history.standing begun time).rank = (history.standing begun' time).rank) :
    begun = begun' := by
  obtain ⟨-, key, pushed⟩ := pushed_of_present member
  obtain ⟨-, key', pushed'⟩ := pushed_of_present member'
  obtain ⟨use, found, ticks⟩ := exists_last pushed time
  obtain ⟨use', found', ticks'⟩ := exists_last pushed' time
  have touched : history.clock (history.last begun time + 1) =
      history.clock (history.last begun' time + 1) := congrArg (fun rank => (ofLex rank).2) same
  have moment := eq_of_clock found ticks found' ticks' touched
  rcases history.last_cases begun time with first | ⟨slot, known, hit⟩ <;>
    rcases history.last_cases begun' time with second | ⟨slot', known', hit'⟩
  · exact first.symm.trans (moment.trans second)
  · rw [← moment, first, pushed] at hit'
    cases hit'
  · rw [moment, second, pushed'] at hit
    cases hit
  · -- both were touched last by the same use, and so under the same slot
    rw [moment, hit'] at hit
    cases hit
    exact seats.single begun member begun' member' (known.trans known'.symm)

end

end History

end PeerCache.Eviction.FrequencyHeap
