import PeerCache.Proofs.Eviction.ListSequence
import PeerCache.Proofs.Eviction.Usage

/-! # What a history tells about a list

Values are pushed onto a list, moved to the back under the slots that were returned for them, and
popped off the front. From this history the sequence of values can be told, and the links of the
list trace this sequence in either direction, whatever slots were reused.
-/

namespace PeerCache.Eviction.LinkedList

variable {α : Type}

/-- What it means for the links of a list that they trace a sequence of slots and values. -/
structure Traces (list : LinkedList α) (places : List (Nat × α)) : Prop where
  /-- From the head, the links lead to every place in order. -/
  forward : list.forward = .ok places
  /-- From the tail, they lead to every place in reverse order. -/
  backward : list.backward = .ok places.reverse
  head : list.head = places.head?.map Prod.fst
  tail : list.tail = places.getLast?.map Prod.fst
  length : list.length = places.length
  /-- No slot is met twice. -/
  nodup : (slots places).Nodup
  /-- The occupied slots are those that are met, and hold these values. -/
  occupied : ∀ slot value, list.value? slot = some value ↔ (slot, value) ∈ places
  /-- No slot is on the free list twice. -/
  nodup_free : list.arena.free.Nodup
  /-- The free slots are those that are not met. -/
  free : ∀ slot, slot ∈ list.arena.free ↔ slot < list.arena.size ∧ slot ∉ slots places

/-- What a use makes of a sequence of slots and values, and what is replied to it. -/
inductive Transforms : Use α → List (Nat × α) → Reply α → List (Nat × α) → Prop
  /-- A value is appended under a slot that no other value has. -/
  | push {places : List (Nat × α)} {slot : Nat} {value : α} (fresh : slot ∉ slots places) :
      Transforms (.push value) places (.placed slot) (places ++ [(slot, value)])
  /-- A value is moved to the end, and the others keep their order. -/
  | touch {left right : List (Nat × α)} {slot : Nat} {value : α} :
      Transforms (.touch slot) (left ++ (slot, value) :: right) .touched
        (left ++ right ++ [(slot, value)])
  /-- The first value is removed and answered. -/
  | pop {slot : Nat} {value : α} {rest : List (Nat × α)} :
      Transforms .pop ((slot, value) :: rest) (.taken (some value)) rest
  /-- There is no first value. -/
  | empty : Transforms .pop [] (.taken none) []

/-- A list that starts empty and how it is used. -/
structure History (α : Type) where
  uses : List (Use α)

namespace History

section Definitions

variable (history : History α)

/-- The list at a time, which is the one that the use at that time meets. -/
def list (time : Nat) : LinkedList α := (container α).state history.uses time

/-- The slot that is returned for the value that is pushed at a moment. -/
def slot? (moment : Nat) : Option Nat := (container α).slot? history.uses moment

/-- The values on the list, and the slots that were returned for them. -/
def sequence : Nat → List (Nat × α)
  | 0 => []
  | time + 1 =>
    match history.uses[time]? with
    | some (.push value) => sequence time ++ (history.slot? time).toList.map (·, value)
    | some (.touch slot) =>
      (sequence time).filter (·.1 ≠ slot) ++ (sequence time).filter (·.1 = slot)
    | some .pop => (sequence time).tail
    | none => sequence time

/-- Only slots of values on the list are touched. -/
def Lawful : Prop := ∀ moment slot, history.uses[moment]? = some (.touch slot) →
  slot ∈ slots (history.sequence moment)

/-- What it means for the lists of a history that they are sequences. -/
structure Sequential : Prop where
  /-- No use faults. -/
  runs : (container α).Runs history.uses
  /-- The links trace the sequence. -/
  traces : ∀ time, (history.list time).Traces (history.sequence time)
  /-- Every use transforms the sequence. -/
  transforms : ∀ time use, history.uses[time]? = some use → ∃ reply,
    (container α).reply? history.uses time = some reply ∧
      Transforms use (history.sequence time) reply (history.sequence (time + 1))

end Definitions

end History

variable {list : LinkedList α} {places left right : List (Nat × α)} {slot : Nat} {value : α}

private theorem firstSlot_eq_head? (places : List (Nat × α)) :
    firstSlot places none = places.head?.map Prod.fst := by
  cases places <;> rfl

private theorem lastSlot_eq_getLast? (places : List (Nat × α)) :
    lastSlot none places = places.getLast?.map Prod.fst := by
  rcases List.eq_nil_or_concat places with rfl | ⟨init, place, rfl⟩
  · rfl
  · rw [List.concat_eq_append, lastSlot_concat, List.getLast?_concat]
    rfl

private theorem Represents.traces (represents : list.Represents places) : list.Traces places where
  forward := forward_ok represents
  backward := backward_ok represents
  head := represents.head.trans (firstSlot_eq_head? places)
  tail := represents.tail.trans (lastSlot_eq_getLast? places)
  length := represents.length
  nodup := represents.nodup
  occupied _ _ := represents.value?_eq_some_iff
  nodup_free := represents.tidy.nodup
  free := by
    intro slot
    rw [represents.tidy.vacant]
    refine and_congr_right fun _ => ⟨fun vacant member => ?_, fun outside => ?_⟩
    · obtain ⟨place, inPlaces, rfl⟩ := List.mem_map.mp member
      obtain ⟨node, found, -⟩ := represents.linked.occupied inPlaces
      cases vacant.symm.trans found
    · by_contra full
      exact outside (represents.occupied slot full)

/-- Sorting out the place of a slot and putting it last moves it to the end. -/
private theorem moved_of_outside (outside : slot ∉ slots (left ++ right)) :
    (left ++ (slot, value) :: right).filter (·.1 ≠ slot) ++
        (left ++ (slot, value) :: right).filter (·.1 = slot) =
      left ++ right ++ [(slot, value)] := by
  have apart : ∀ places : List (Nat × α), slot ∉ slots places →
      places.filter (·.1 ≠ slot) = places ∧ places.filter (·.1 = slot) = [] := by
    intro places outside
    have other : ∀ place ∈ places, place.1 ≠ slot := by
      rintro place member rfl
      exact outside (List.mem_map_of_mem (f := Prod.fst) member)
    exact ⟨List.filter_eq_self.mpr fun place member => decide_eq_true (other place member),
      List.filter_eq_nil_iff.mpr fun place member => by simpa using other place member⟩
  rw [slots_append, List.mem_append, not_or] at outside
  obtain ⟨onLeft, notLeft⟩ := apart left outside.1
  obtain ⟨onRight, notRight⟩ := apart right outside.2
  rw [List.filter_append, List.filter_append, List.filter_cons_of_neg (by simp),
    List.filter_cons_of_pos (by simp), onLeft, onRight, notLeft, notRight, List.nil_append]

namespace History

variable {history : History α} {time : Nat} {use : Use α}

/-- A lawful use is performed, and the list stands for the next sequence after it. -/
theorem step_ok (represents : (history.list time).Represents (history.sequence time))
    (lawful : history.Lawful) (found : history.uses[time]? = some use) :
    ∃ after reply, (container α).step (history.list time) use = .ok (after, reply) ∧
      after.Represents (history.sequence (time + 1)) ∧
      Transforms use (history.sequence time) reply (history.sequence (time + 1)) := by
  cases use with
  | push value =>
    obtain ⟨slot, after, pushed, represents'⟩ := pushBack_ok represents value
    have known : history.slot? time = some slot := Container.slot?_of_push found pushed
    have next : history.sequence (time + 1) = history.sequence time ++ [(slot, value)] := by
      rw [sequence, found]
      simp [known]
    refine ⟨after, _, Container.step_of_push pushed, next ▸ represents', next ▸ .push ?_⟩
    simpa using represents'.nodup_middle.1
  | touch slot =>
    obtain ⟨⟨slot, value⟩, member, rfl⟩ := List.mem_map.mp (lawful time slot found)
    obtain ⟨left, right, split⟩ := List.append_of_mem member
    rw [split] at represents ⊢
    obtain ⟨after, moved, represents'⟩ := moveToBack_ok represents
    have next : history.sequence (time + 1) = left ++ right ++ [(slot, value)] := by
      rw [sequence, found]
      simp only [split]
      exact moved_of_outside represents.nodup_middle.1
    exact ⟨after, _, Container.step_of_touch moved, next ▸ represents', next ▸ .touch⟩
  | pop =>
    have next : history.sequence (time + 1) = (history.sequence time).tail := by
      rw [sequence, found]
    cases places : history.sequence time with
    | nil =>
      rw [places] at represents next
      exact ⟨_, _, Container.step_of_empty (popFront_nil represents), next ▸ represents,
        next ▸ .empty⟩
    | cons place rest =>
      rw [places] at represents next
      obtain ⟨after, popped, represents'⟩ := popFront_cons represents
      exact ⟨after, _, Container.step_of_pop popped, next ▸ represents', next ▸ .pop⟩

theorem represents (lawful : history.Lawful) (time : Nat) :
    (history.list time).Represents (history.sequence time) := by
  induction time with
  | zero => exact represents_empty
  | succ time ih =>
    cases found : history.uses[time]? with
    | some use =>
      obtain ⟨after, reply, stepped, represents, -⟩ := step_ok ih lawful found
      have reached : history.list (time + 1) = after := (Container.advances found stepped).1
      exact reached ▸ represents
    | none =>
      have same : history.list (time + 1) = history.list time :=
        Container.state_succ_of_none found
      have next : history.sequence (time + 1) = history.sequence time := by
        rw [sequence, found]
      rwa [same, next]

/-- As long as only slots of values on the list are touched, linked lists are sequences. -/
theorem sequential {history : History α} (lawful : history.Lawful) : history.Sequential where
  runs := by
    refine Container.runs_of_step fun moment use found => ?_
    obtain ⟨after, reply, stepped, -⟩ := step_ok (history.represents lawful moment) lawful found
    exact ⟨after, reply, stepped⟩
  traces time := (history.represents lawful time).traces
  transforms := by
    intro time use found
    obtain ⟨after, reply, stepped, -, transforms⟩ :=
      step_ok (history.represents lawful time) lawful found
    exact ⟨reply, (Container.advances found stepped).2, transforms⟩

/-- A value that is popped leaves its slot to another one, which is popped in turn after values were
moved behind it. -/
def recycled : History String :=
  ⟨[.push "Tom", .push "Sam", .touch 0, .pop, .push "Jack", .touch 0, .touch 0, .pop]⟩

private theorem lawful_recycled : recycled.Lawful := by
  intro moment slot found
  have below : moment < 8 := (List.getElem?_eq_some_iff.mp found).1
  interval_cases moment <;> cases found
  all_goals decide +kernel

theorem sequential_recycled : recycled.Lawful ∧ recycled.Sequential :=
  ⟨lawful_recycled, sequential lawful_recycled⟩

/-- The last pop answers the value that got the slot of the one that left before. -/
example : recycled.sequence 7 = [(1, "Jack"), (0, "Tom")] ∧
    (container String).reply? recycled.uses 7 = some (.taken (some "Jack")) := by
  decide +kernel

end History

end PeerCache.Eviction.LinkedList
