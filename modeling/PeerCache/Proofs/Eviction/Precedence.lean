import PeerCache.Proofs.Eviction.HeapOrder
import PeerCache.Proofs.Eviction.Residence

/-! # The next victim

The key that a tracker gives up is the first one in the order of its residences. A list gives up its
front. A heap gives up its top, which is the first one as long as the heap is in order, and every
operation of a tracker keeps it so.
-/

namespace PeerCache.Eviction

theorem Standing.rank_le_iff {first second : Standing} : first.rank ≤ second.rank ↔
    first.frequency < second.frequency ∨
      first.frequency = second.frequency ∧ first.touched ≤ second.touched := by
  rw [rank, rank, Prod.Lex.toLex_le_toLex]

theorem Policy.Precedes.asymm {policy : Policy} {first second : Residence}
    (precedes : policy.Precedes first second) : ¬ policy.Precedes second first := by
  intro precedes'
  cases policy <;> simp only [Precedes] at precedes precedes' <;> omega

namespace LinkedList

variable {keys after : LinkedList String} {policy : Policy} {residents : Nat → Option Residence}
  {key : String}

private theorem Arranged.front_first (arranged : keys.Arranged policy residents)
    (popped : keys.popFront = .ok (some (key, after))) :
    ∃ slot, keys.value? slot = some key ∧ ∀ other, other ≠ slot → keys.value? other ≠ none →
      ∀ residence residence', residents slot = some residence →
        residents other = some residence' → policy.Precedes residence residence' := by
  obtain ⟨places, represents, arranges⟩ := arranged
  cases places with
  | nil =>
    rw [popFront_nil represents] at popped
    cases popped
  | cons place rest =>
    obtain ⟨slot, value⟩ := place
    obtain ⟨after', popped', -, tracked, -⟩ := Tracker.popFront_values represents
    cases popped.symm.trans popped'
    refine ⟨slot, tracked, fun other distinct used => ?_⟩
    obtain ⟨value, held⟩ := Option.ne_none_iff_exists'.mp used
    have listed := represents.value?_eq_some_iff.mp held
    have behind : other ∈ slots rest := by
      rcases List.mem_cons.mp listed with same | member
      · exact absurd (congrArg Prod.fst same) distinct
      · exact List.mem_map_of_mem (f := Prod.fst) member
    exact List.rel_of_pairwise_cons arranges behind

end LinkedList

namespace Tracker

/-- The heap of a tracker is in order, if it has one. -/
def Ordered : Tracker → Prop
  | .lru _ | .fifo _ => True
  | .lfu keys => keys.Ordered

/-- What it means for a tracker to give up a key. -/
inductive Pops (key : String) : Tracker → Tracker → Prop
  | lru {keys after : LinkedList String} (taken : keys.popFront = .ok (some (key, after))) :
      Pops key (.lru keys) (.lru after)
  | fifo {keys after : LinkedList String} (taken : keys.popFront = .ok (some (key, after))) :
      Pops key (.fifo keys) (.fifo after)
  | lfu {keys after : FrequencyHeap} (taken : keys.pop = .ok (some (key, after))) :
      Pops key (.lfu keys) (.lfu after)

variable {tracker after : Tracker} {residents : Nat → Option Residence} {now slot : Nat}
  {key : String}

private theorem pops_of_pop (popped : tracker.pop = .ok (some (key, after))) :
    Pops key tracker after := by
  cases tracker with
  | lru keys =>
    obtain ⟨_, taken, same⟩ := Checked.bind_eq_ok_iff.mp popped
    obtain ⟨⟨_, _⟩, rfl, same⟩ := Option.map_eq_some_iff.mp (Except.ok.inj same)
    cases same
    exact .lru taken
  | fifo keys =>
    obtain ⟨_, taken, same⟩ := Checked.bind_eq_ok_iff.mp popped
    obtain ⟨⟨_, _⟩, rfl, same⟩ := Option.map_eq_some_iff.mp (Except.ok.inj same)
    cases same
    exact .fifo taken
  | lfu keys =>
    obtain ⟨_, taken, same⟩ := Checked.bind_eq_ok_iff.mp popped
    obtain ⟨⟨_, _⟩, rfl, same⟩ := Option.map_eq_some_iff.mp (Except.ok.inj same)
    cases same
    exact .lfu taken

theorem ordered_empty (policy : Policy) : (empty policy).Ordered := by
  cases policy with
  | lru | fifo => trivial
  | lfu => exact FrequencyHeap.ordered_empty

theorem Ordered.push (ordered : tracker.Ordered) (sound : tracker.Sound)
    (pushed : tracker.push key = .ok (slot, after)) : after.Ordered := by
  cases tracker with
  | lru keys | fifo keys =>
    obtain ⟨_, -, same⟩ := Checked.bind_eq_ok_iff.mp pushed
    cases same
    trivial
  | lfu keys =>
    obtain ⟨⟨_, _⟩, inserted, same⟩ := Checked.bind_eq_ok_iff.mp pushed
    cases same
    exact FrequencyHeap.Ordered.push ordered sound inserted

theorem Ordered.touch (ordered : tracker.Ordered) (sound : tracker.Sound)
    (tracked : tracker.keyAt? slot = some key) (touched : tracker.touch slot = .ok after) :
    after.Ordered := by
  cases tracker with
  | lru keys =>
    obtain ⟨_, -, same⟩ := Checked.bind_eq_ok_iff.mp touched
    cases same
    trivial
  | fifo keys =>
    cases touched
    trivial
  | lfu keys =>
    obtain ⟨_, bumped, same⟩ := Checked.bind_eq_ok_iff.mp touched
    cases same
    obtain ⟨standing, stands, -⟩ := Option.map_eq_some_iff.mp tracked
    exact FrequencyHeap.Ordered.bump ordered sound stands bumped

theorem Ordered.pop (ordered : tracker.Ordered) (sound : tracker.Sound)
    (popped : tracker.pop = .ok (some (key, after))) : after.Ordered := by
  cases pops_of_pop popped with
  | lru | fifo => trivial
  | lfu taken => exact (FrequencyHeap.Ordered.pop ordered sound taken).1

/-- The key that is given up is the first to leave. -/
theorem Follows.pop_first (follows : tracker.Follows residents now) (ordered : tracker.Ordered)
    (popped : tracker.pop = .ok (some (key, after))) :
    ∃ slot, tracker.keyAt? slot = some key ∧ ∀ other, other ≠ slot →
      ∀ residence residence', residents slot = some residence →
        residents other = some residence' → tracker.policy.Precedes residence residence' := by
  have used : ∀ other residence, residents other = some residence →
      tracker.keyAt? other ≠ none := by
    intro other residence resides
    rw [ne_eq, ← follows.resident, resides]
    simp
  have arranged := follows.arranged
  cases pops_of_pop popped with
  | lru taken =>
    obtain ⟨slot, tracked, first⟩ := LinkedList.Arranged.front_first arranged taken
    exact ⟨slot, tracked, fun other distinct residence residence' resides resides' =>
      first other distinct (used other residence' resides') _ _ resides resides'⟩
  | fifo taken =>
    obtain ⟨slot, tracked, first⟩ := LinkedList.Arranged.front_first arranged taken
    exact ⟨slot, tracked, fun other distinct residence residence' resides resides' =>
      first other distinct (used other residence' resides') _ _ resides resides'⟩
  | lfu taken =>
    have ranks : FrequencyHeap.Ranks _ residents := arranged
    obtain ⟨-, slot, standing, stands, rfl, first⟩ :=
      FrequencyHeap.Ordered.pop ordered ranks.layout taken
    refine ⟨slot, by simp [keyAt?, stands], ?_⟩
    intro other distinct residence residence' resides resides'
    obtain ⟨key', tracked'⟩ := Option.ne_none_iff_exists'.mp (used other residence' resides')
    obtain ⟨standing', stands', -⟩ := Option.map_eq_some_iff.mp tracked'
    exact ranks.precedes distinct.symm ⟨stands, resides⟩ ⟨stands', resides'⟩
      (Standing.rank_le_iff.mp (first other standing' stands'))

end Tracker

end PeerCache.Eviction
