import Mathlib
import PeerCache.Cluster.Exchange

/-! # Groups in their places

All that an exchange changes about a cluster is its log and, one at a time, the groups of its nodes.
So what it comes to is said by the notes that were added and by the groups that took the place of
others. Groups of different nodes can be put in place in any order.
-/

namespace PeerCache

/-- A node with a group in the place of another. -/
def ClusterNode.place (member : ClusterNode) (group : Nat) (hosted : Hosted) : ClusterNode :=
  { member with hosted := member.hosted.modify group fun _ => hosted }

namespace Cluster

/-- Put a group of a node in the place of another. -/
def place (cluster : Cluster) (node group : Nat) (hosted : Hosted) : Cluster :=
  cluster.modifyNode node fun member => member.place group hosted

/-- There is a node at this position, which has a group at that position. -/
structure Houses (cluster : Cluster) (node group : Nat) (member : ClusterNode) (hosted : Hosted) :
    Prop where
  found : cluster.nodes[node]? = some member
  housed : member.hosted[group]? = some hosted

variable {cluster : Cluster} {node group other position : Nat} {member : ClusterNode}
  {hosted : Hosted}

/-! ## Changing places -/

private theorem modify_modify {α : Type} (items : Array α) (index : Nat) (first second : α → α) :
    (items.modify index first).modify index second = items.modify index (second ∘ first) := by
  apply Array.ext_getElem?
  intro position
  simp only [Array.getElem?_modify]
  split <;> simp

private theorem modify_id {α : Type} (items : Array α) (index : Nat) :
    items.modify index id = items := by
  apply Array.ext_getElem?
  intro position
  simp [Array.getElem?_modify]

private theorem modify_comm {α : Type} (items : Array α) {index other : Nat}
    (distinct : index ≠ other) (first second : α → α) :
    (items.modify index first).modify other second =
      (items.modify other second).modify index first := by
  apply Array.ext_getElem?
  intro position
  simp only [Array.getElem?_modify]
  split
  · next same => rw [if_neg (same ▸ distinct), if_neg (same ▸ distinct)]
  · rfl

theorem getElem?_place (cluster : Cluster) (node group : Nat) (hosted : Hosted) (other : Nat) :
    (cluster.place node group hosted).nodes[other]? =
      if node = other then cluster.nodes[other]?.map fun member => member.place group hosted
      else cluster.nodes[other]? :=
  Array.getElem?_modify

theorem place_place (cluster : Cluster) (node group : Nat) (first second : Hosted) :
    (cluster.place node group first).place node group second = cluster.place node group second := by
  simp only [place, modifyNode, modify_modify, Function.comp_def, ClusterNode.place]

theorem place_comm (cluster : Cluster) {node other : Nat} (distinct : node ≠ other)
    (group position : Nat) (first second : Hosted) :
    (cluster.place node group first).place other position second =
      (cluster.place other position second).place node group first := by
  simp only [place, modifyNode, modify_comm cluster.nodes distinct]

theorem place_note (cluster : Cluster) (node group : Nat) (hosted : Hosted)
    (notes : List ClusterNote) :
    (cluster.place node group hosted).note notes = (cluster.note notes).place node group hosted :=
  rfl

theorem note_nil (cluster : Cluster) : cluster.note [] = cluster := by
  simp [note]

theorem note_note (cluster : Cluster) (first second : List ClusterNote) :
    (cluster.note first).note second = cluster.note (first ++ second) := by
  simp [note]

/-! ## What is in a place -/

theorem Houses.hosted? (houses : cluster.Houses node group member hosted) :
    cluster.hosted? node group = some hosted := by
  rw [Cluster.hosted?, houses.found]
  exact houses.housed

theorem Houses.modifyHosted (houses : cluster.Houses node group member hosted)
    (change : Hosted → Hosted) :
    cluster.modifyHosted node group change = cluster.place node group (change hosted) := by
  have nodes : (cluster.modifyHosted node group change).nodes =
      (cluster.place node group (change hosted)).nodes := by
    apply Array.ext_getElem?
    intro position
    rw [getElem?_place, Cluster.modifyHosted, modifyNode, Array.getElem?_modify]
    split
    · next same =>
      rw [← same, houses.found, Option.map_some, Option.map_some, ClusterNode.place]
      congr 2
      apply Array.ext_getElem?
      intro index
      simp only [Array.getElem?_modify]
      split
      · next same => rw [← same, houses.housed, Option.map_some, Option.map_some]
      · rfl
    · rfl
  rw [show cluster.modifyHosted node group change =
    { cluster with nodes := (cluster.modifyHosted node group change).nodes } from rfl, nodes]
  rfl

theorem Houses.unique {one : ClusterNode} {held : Hosted}
    (houses : cluster.Houses node group member hosted)
    (houses' : cluster.Houses node group one held) : hosted = held :=
  Option.some.inj (houses.hosted?.symm.trans houses'.hosted?)

theorem exists_houses (placed : cluster.hosted? node group = some hosted) :
    ∃ member, cluster.Houses node group member hosted := by
  obtain ⟨member, found, housed⟩ := Option.bind_eq_some_iff.mp placed
  exact ⟨member, found, housed⟩

private theorem modifyHosted_of_none (absent : cluster.hosted? node group = none)
    (change : Hosted → Hosted) : cluster.modifyHosted node group change = cluster := by
  have nodes : (cluster.modifyHosted node group change).nodes = cluster.nodes := by
    apply Array.ext_getElem?
    intro position
    rw [Cluster.modifyHosted, modifyNode, Array.getElem?_modify]
    split
    case isFalse => rfl
    case isTrue same =>
      subst same
      cases found : cluster.nodes[node]? with
      | none => rfl
      | some member =>
        rw [Cluster.hosted?, found, Option.bind_some] at absent
        rw [Option.map_some]
        congr 1
        have unchanged : member.hosted.modify group change = member.hosted := by
          apply Array.ext_getElem?
          intro index
          rw [Array.getElem?_modify]
          split
          · next same => rw [← same, absent, Option.map_none]
          · rfl
        rw [unchanged]
  rw [show cluster.modifyHosted node group change =
    { cluster with nodes := (cluster.modifyHosted node group change).nodes } from rfl, nodes]

/-- To change what is in a place changes nothing, or puts something there. -/
theorem modifyHosted_cases (cluster : Cluster) (node group : Nat) (change : Hosted → Hosted) :
    cluster.modifyHosted node group change = cluster ∨
      ∃ member hosted, cluster.Houses node group member hosted ∧
        cluster.modifyHosted node group change = cluster.place node group (change hosted) := by
  cases placed : cluster.hosted? node group with
  | none => exact .inl (modifyHosted_of_none placed change)
  | some hosted =>
    obtain ⟨member, houses⟩ := exists_houses placed
    exact .inr ⟨member, hosted, houses, houses.modifyHosted change⟩

theorem Houses.place_self (houses : cluster.Houses node group member hosted) :
    cluster.place node group hosted = cluster := by
  have same := houses.modifyHosted id
  simp only [Cluster.modifyHosted, modifyNode, modify_id, id_eq] at same
  rw [← same]
  exact congrArg (fun nodes => { cluster with nodes }) (modify_id cluster.nodes node)

theorem Houses.place (houses : cluster.Houses node group member hosted) (next : Hosted) :
    (cluster.place node group next).Houses node group (member.place group next) next where
  found := by rw [getElem?_place, if_pos rfl, houses.found, Option.map_some]
  housed := by simp [ClusterNode.place, Array.getElem?_modify, houses.housed]

theorem Houses.note (houses : cluster.Houses node group member hosted)
    (notes : List ClusterNote) : (cluster.note notes).Houses node group member hosted :=
  ⟨houses.found, houses.housed⟩

theorem Houses.place_other (houses : cluster.Houses node group member hosted)
    (distinct : other ≠ node) (next : Hosted) :
    (cluster.place other position next).Houses node group member hosted where
  found := by rw [getElem?_place, if_neg distinct, houses.found]
  housed := houses.housed

/-! ## Nodes -/

/-- A node is what it was before one was changed, or has been changed itself. -/
theorem exists_of_modifyNode {change : ClusterNode → ClusterNode} {after : ClusterNode}
    (found : (cluster.modifyNode node change).nodes[position]? = some after) :
    ∃ before, cluster.nodes[position]? = some before ∧
      (after = before ∨ after = change before) := by
  rw [modifyNode, Array.getElem?_modify] at found
  split at found
  · obtain ⟨before, stood, rfl⟩ := Option.map_eq_some_iff.mp found
    exact ⟨before, stood, .inr rfl⟩
  · exact ⟨after, found, .inl rfl⟩

theorem exists_of_place {after : ClusterNode}
    (found : (cluster.place node group hosted).nodes[position]? = some after) :
    ∃ before, cluster.nodes[position]? = some before ∧ after.base = before.base ∧
      after.pool = before.pool ∧ after.registry = before.registry := by
  obtain ⟨before, stood, rfl | rfl⟩ := exists_of_modifyNode found
  · exact ⟨after, stood, rfl, rfl, rfl⟩
  · exact ⟨before, stood, rfl, rfl, rfl⟩

theorem exists_place {before : ClusterNode} (found : cluster.nodes[position]? = some before)
    (node group : Nat) (hosted : Hosted) :
    ∃ after, (cluster.place node group hosted).nodes[position]? = some after ∧
      after.base = before.base := by
  rw [getElem?_place, found]
  split
  · exact ⟨before.place group hosted, rfl, rfl⟩
  · exact ⟨before, rfl, rfl⟩

/-- In a place is what was put there, and elsewhere what was there before. -/
theorem houses_of_place {index : Nat} {one : ClusterNode} {held next : Hosted}
    (after : (cluster.place node group next).Houses position index one held) :
    ∃ before, one.registry = before.registry ∧
      (position = node ∧ index = group ∧ held = next ∧ cluster.nodes[node]? = some before ∨
        cluster.Houses position index before held) := by
  obtain ⟨found, housed⟩ := after
  rw [getElem?_place] at found
  split at found
  case isFalse => exact ⟨one, rfl, .inr ⟨found, housed⟩⟩
  case isTrue same =>
    subst same
    obtain ⟨before, stood, rfl⟩ := Option.map_eq_some_iff.mp found
    refine ⟨before, rfl, ?_⟩
    rw [ClusterNode.place, Array.getElem?_modify] at housed
    split at housed
    case isTrue same =>
      obtain ⟨-, -, rfl⟩ := Option.map_eq_some_iff.mp housed
      exact .inl ⟨rfl, same.symm, rfl, stood⟩
    case isFalse => exact .inr ⟨stood, housed⟩

theorem Houses.place_elsewhere (houses : cluster.Houses node group member hosted)
    (elsewhere : ¬ (other = node ∧ position = group)) (next : Hosted) :
    ∃ after, (cluster.place other position next).Houses node group after hosted := by
  by_cases same : other = node
  case neg => exact ⟨member, houses.place_other same next⟩
  case pos =>
    refine ⟨member.place position next, ?_, ?_⟩
    · rw [getElem?_place, if_pos same, houses.found, Option.map_some]
    · rw [ClusterNode.place, Array.getElem?_modify, if_neg fun here => elsewhere ⟨same, here⟩]
      exact houses.housed

theorem exists_of_setPeers {peers : List String} {after : ClusterNode}
    (found : (cluster.setPeers node peers).nodes[position]? = some after) :
    ∃ before, cluster.nodes[position]? = some before ∧ after.hosted = before.hosted ∧
      after.registry = before.registry ∧
        (after.pool = before.pool ∨ after.pool = before.pool.set peers) := by
  obtain ⟨before, stood, rfl | rfl⟩ := exists_of_modifyNode found
  · exact ⟨after, stood, rfl, rfl, .inl rfl⟩
  · exact ⟨before, stood, rfl, rfl, .inr rfl⟩

theorem Houses.groupCount_pos (houses : cluster.Houses node group member hosted) :
    0 < cluster.groupCount := by
  have total :
      cluster.groupCount = (cluster.nodes.toList.map fun node => node.hosted.size).sum := by
    rw [groupCount, ← Array.foldl_toList, List.sum_eq_foldl, List.foldl_map]
  have listed : member ∈ cluster.nodes.toList :=
    Array.mem_toList_iff.mpr (Array.mem_of_getElem? houses.found)
  obtain ⟨inside, -⟩ := Array.getElem?_eq_some_iff.mp houses.housed
  have counted := List.single_le_sum (by simp) _ (List.mem_map_of_mem (f := fun node =>
    node.hosted.size) listed)
  omega

end Cluster

end PeerCache
