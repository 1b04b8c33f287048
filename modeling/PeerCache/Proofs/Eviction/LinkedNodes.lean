import Mathlib
import PeerCache.Eviction.LinkedList
import PeerCache.Proofs.Eviction.ArenaSlots

/-! # Stretches of linked nodes

A linked list stands for a sequence of places, each a slot with its value. `Linked` says of a
stretch of that sequence that every node in it names its neighbours, given the slots on either side
of the stretch. It splits at any point and ignores slots outside the stretch, so that relinking one
end of a stretch leaves the rest alone.
-/

namespace PeerCache.Eviction.LinkedList

variable {α : Type}

/-! ## Stretches of linked nodes -/

/-- The slots of a sequence of places. -/
def slots (places : List (Nat × α)) : List Nat := places.map Prod.fst

/-- The first slot of a stretch, or what comes after it if it is empty. -/
def firstSlot : List (Nat × α) → Option Nat → Option Nat
  | [], after => after
  | place :: _, _ => some place.1

/-- The last slot of a stretch, or what comes before it if it is empty. -/
def lastSlot : Option Nat → List (Nat × α) → Option Nat
  | before, [] => before
  | _, place :: rest => lastSlot (some place.1) rest

/-- Every node of a stretch holds its value and names its neighbours. -/
def Linked (look : Nat → Option (Node α)) : Option Nat → List (Nat × α) → Option Nat → Prop
  | _, [], _ => True
  | before, (slot, value) :: rest, after =>
    look slot = some ⟨value, before, firstSlot rest after⟩ ∧ Linked look (some slot) rest after

@[simp] theorem slots_append (left right : List (Nat × α)) :
    slots (left ++ right) = slots left ++ slots right := List.map_append

@[simp] theorem slots_cons (place : Nat × α) (rest : List (Nat × α)) :
    slots (place :: rest) = place.1 :: slots rest := rfl

theorem firstSlot_append (left right : List (Nat × α)) (after : Option Nat) :
    firstSlot (left ++ right) after = firstSlot left (firstSlot right after) := by
  cases left <;> rfl

theorem lastSlot_append (before : Option Nat) (left right : List (Nat × α)) :
    lastSlot before (left ++ right) = lastSlot (lastSlot before left) right := by
  induction left generalizing before with
  | nil => rfl
  | cons place rest ih => exact ih (some place.1)

theorem lastSlot_concat (before : Option Nat) (rest : List (Nat × α)) (place : Nat × α) :
    lastSlot before (rest ++ [place]) = some place.1 := by
  rw [lastSlot_append]
  rfl

/-- A stretch splits at any point into two, each of which sees the near end of the other. -/
theorem linked_append {look : Nat → Option (Node α)} {before after : Option Nat}
    (left right : List (Nat × α)) :
    Linked look before (left ++ right) after ↔
      Linked look before left (firstSlot right after) ∧
        Linked look (lastSlot before left) right after := by
  induction left generalizing before with
  | nil => simp [Linked, lastSlot]
  | cons place rest ih =>
    obtain ⟨slot, value⟩ := place
    simp only [List.cons_append, Linked, lastSlot, ih, firstSlot_append, and_assoc]

theorem Linked.congr {look look' : Nat → Option (Node α)} {before after : Option Nat}
    {places : List (Nat × α)} (linked : Linked look before places after)
    (same : ∀ slot ∈ slots places, look' slot = look slot) :
    Linked look' before places after := by
  induction places generalizing before with
  | nil => trivial
  | cons place rest ih =>
    obtain ⟨slot, value⟩ := place
    refine ⟨(same slot (by simp)).trans linked.1, ih linked.2 ?_⟩
    intro other member
    exact same other (List.mem_cons_of_mem _ member)

theorem Linked.occupied {look : Nat → Option (Node α)} {before after : Option Nat}
    {places : List (Nat × α)} (linked : Linked look before places after) {place : Nat × α}
    (member : place ∈ places) : ∃ node, look place.1 = some node ∧ node.value = place.2 := by
  induction places generalizing before with
  | nil => contradiction
  | cons head rest ih =>
    rcases List.mem_cons.mp member with rfl | later
    · exact ⟨_, linked.1, rfl⟩
    · exact ih linked.2 later

/-! ## Relinking -/

/-- What relinking leaves as it was, apart from the content of the touched slots. -/
structure Keeps (list after : LinkedList α) (touched : List Nat) : Prop where
  tidy : after.arena.Tidy
  length : after.length = list.length
  frame : ∀ slot ∉ touched, after.arena.get? slot = list.arena.get? slot
  occupied : ∀ slot, after.arena.get? slot ≠ none ↔ list.arena.get? slot ≠ none

theorem Keeps.trans {list middle after : LinkedList α} {first second : List Nat}
    (left : Keeps list middle first) (right : Keeps middle after second) :
    Keeps list after (first ++ second) where
  tidy := right.tidy
  length := right.length.trans left.length
  frame := by
    intro slot outside
    rw [List.mem_append, not_or] at outside
    exact (right.frame slot outside.2).trans (left.frame slot outside.1)
  occupied slot := (right.occupied slot).trans (left.occupied slot)

theorem modify_keeps {list : LinkedList α} (tidy : list.arena.Tidy) {slot : Nat} {node : Node α}
    (found : list.arena.get? slot = some node) (change : Node α → Node α) :
    ∃ arena, list.arena.modify slot change = .ok arena ∧
      Keeps list { list with arena } [slot] ∧ arena.get? slot = some (change node) := by
  obtain ⟨arena, modified, tidy', content⟩ := Arena.modify_ok tidy found change
  refine ⟨arena, modified, ⟨tidy', rfl, ?_, ?_⟩, by rw [content, Function.update_self]⟩
  · intro other outside
    rw [content, Function.update_of_ne (List.ne_of_not_mem_cons outside)]
  · intro other
    rw [content]
    by_cases same : other = slot
    · subst same
      simp [found]
    · rw [Function.update_of_ne same]

/-- Let the stretch at the head of a list be followed by another slot. -/
theorem setNext_ok (list : LinkedList α) (tidy : list.arena.Tidy) {left : List (Nat × α)}
    (nodup : (slots left).Nodup) {next : Option Nat}
    (linked : Linked list.arena.get? none left next) (head : list.head = firstSlot left next)
    (slot : Option Nat) :
    ∃ after touched, list.setNext (lastSlot none left) slot = .ok after ∧
      Keeps list after touched ∧ touched ⊆ slots left ∧
      Linked after.arena.get? none left slot ∧ after.head = firstSlot left slot ∧
      after.tail = list.tail := by
  rcases List.eq_nil_or_concat left with rfl | ⟨init, ⟨last, value⟩, rfl⟩
  · exact ⟨{ list with head := slot }, [], rfl, ⟨tidy, rfl, fun _ _ => rfl, fun _ => .rfl⟩,
      List.nil_subset _, trivial, rfl, rfl⟩
  · rw [List.concat_eq_append] at nodup linked head ⊢
    obtain ⟨before, found, -⟩ := (linked_append init _).mp linked
    obtain ⟨arena, modified, keeps, renewed⟩ := modify_keeps tidy found ({ · with next := slot })
    have outside : last ∉ slots init := by
      have apart := (List.nodup_append.mp (by simpa using nodup)).2.2
      exact fun member => apart last member last (by simp) rfl
    refine ⟨{ list with arena }, [last], ?_, keeps, by simp, ?_, ?_, rfl⟩
    · rw [lastSlot_concat]
      simp [setNext, modified, bind, Except.bind, pure, Except.pure]
    · refine (linked_append init _).mpr ⟨before.congr ?_, renewed, trivial⟩
      intro other member
      exact keeps.frame other (by rintro same; simp at same; exact outside (same ▸ member))
    · rw [head, firstSlot_append, firstSlot_append]
      rfl

theorem setPrevious_ok {list : LinkedList α} (tidy : list.arena.Tidy) {right : List (Nat × α)}
    (nodup : (slots right).Nodup) {previous : Option Nat}
    (linked : Linked list.arena.get? previous right none)
    (tail : list.tail = lastSlot previous right) (slot : Option Nat) :
    ∃ after touched, list.setPrevious (firstSlot right none) slot = .ok after ∧
      Keeps list after touched ∧ touched ⊆ slots right ∧
      Linked after.arena.get? slot right none ∧ after.head = list.head ∧
      after.tail = lastSlot slot right := by
  cases right with
  | nil =>
    exact ⟨{ list with tail := slot }, [], rfl, ⟨tidy, rfl, fun _ _ => rfl, fun _ => .rfl⟩,
      List.nil_subset _, trivial, rfl, rfl⟩
  | cons place rest =>
    obtain ⟨first, value⟩ := place
    obtain ⟨found, after⟩ := linked
    obtain ⟨arena, modified, keeps, renewed⟩ :=
      modify_keeps tidy found ({ · with previous := slot })
    have outside : first ∉ slots rest := (List.nodup_cons.mp nodup).1
    refine ⟨{ list with arena }, [first], ?_, keeps, by simp, ⟨renewed, after.congr ?_⟩, rfl, tail⟩
    · simp [setPrevious, firstSlot, modified, bind, Except.bind, pure, Except.pure]
    · intro other member
      exact keeps.frame other (by rintro same; simp at same; exact outside (same ▸ member))

end PeerCache.Eviction.LinkedList
