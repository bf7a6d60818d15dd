import GraphLayout.Proofs.RemovalOrder
import Mathlib.Data.List.Forall2

/-!
# One removal

A removal touches the index, the edges and the arena one after the other, and then looks for
another node with the id. In a coherent layout all of this comes to one change: the lowest slot
with the id becomes vacant, and nothing refers to it any more. Without a node with the id there
is no change at all.
-/

namespace GraphLayout

namespace Edge

structure LosesEnds (slot : Nat) (before after : Edge) : Prop where
  id : after.id = before.id
  attributes : after.attributes = before.attributes
  source : forall s, after.source = some s <-> before.source = some s ∧ s ≠ slot
  target : forall t, after.target = some t <-> before.target = some t ∧ t ≠ slot

theorem losesEnds_detach (slot : Nat) (edge : Edge) : LosesEnds slot edge (edge.detach slot) where
  id := rfl
  attributes := rfl
  source _ := source_detach_eq_some_iff
  target _ := target_detach_eq_some_iff

theorem joins_detach_iff {slot here there : Nat} {edge : Edge} :
    (edge.detach slot).Joins here there <-> edge.Joins here there ∧ here ≠ slot ∧ there ≠ slot := by
  unfold Joins
  simp only [endpoints?_eq_some_iff, source_detach_eq_some_iff, target_detach_eq_some_iff]
  tauto

end Edge

namespace Layout

variable {α : Type}

def slotsOf (layout : Layout α) (id : NodeId) : Set Nat :=
  {slot | exists node, layout.node? slot = some node ∧ node.id = id}

/-- The second layout is the first one without the node with the id in the slot. The fields speak of
every part of a layout. -/
structure Removal (id : NodeId) (slot : Nat) (before after : Layout α) : Prop where
  lowest : IsLeast (before.slotsOf id) slot
  nodes : forall s, after.node? s = if s = slot then none else before.node? s
  size : after.arena.slots.size = before.arena.slots.size
  vacant : after.arena.vacant = slot :: before.arena.vacant
  links : after.arena.links = before.arena.links.filter fun link => !link.touches slot
  edges : List.Forall₂ (Edge.LosesEnds slot) before.edges.toList after.edges.toList
  /-- The id finds the next slot with it. -/
  found : forall s, after.nodeIndex? id = some s <-> IsLeast {s ∈ before.slotsOf id | slot < s} s
  notFound : after.nodeIndex? id = none <-> {s ∈ before.slotsOf id | slot < s} = ∅
  others : forall other, other ≠ id -> after.nodeIndex? other = before.nodeIndex? other
  neighbors : forall a b, a ≠ id -> b ≠ id ->
    (b ∈ after.neighbors a <-> b ∈ before.neighbors a)
  config : after.config = before.config
  dimensions : after.dimensions = before.dimensions
  spiral : after.spiral = before.spiral
  iterations : after.iterations = before.iterations

variable [Scalar α]

namespace Coherent

variable {layout : Layout α} {id : NodeId} {slot : Nat}

theorem nodeIndex?_eq_some_iff (h : layout.Coherent) :
    layout.nodeIndex? id = some slot <-> IsLeast (layout.slotsOf id) slot :=
  h.consistent.found id slot

theorem nodeIndex?_eq_none_iff (h : layout.Coherent) :
    layout.nodeIndex? id = none <-> layout.slotsOf id = ∅ := by
  rw [h.consistent.notFound, Set.eq_empty_iff_forall_notMem]
  constructor
  · rintro hnone slot ⟨node, hnode, hid⟩
    exact hnone slot node hnode hid
  · intro hnone slot node hnode hid
    exact hnone slot ⟨node, hnode, hid⟩

/-- As no lower slot holds the id, what is left with it lies above. -/
theorem slotsOf_remove (h : layout.Coherent) (hlowest : IsLeast (layout.slotsOf id) slot) :
    (layout.remove id).1.slotsOf id = {s ∈ layout.slotsOf id | slot < s} := by
  rw [fst_remove_of_slot? (h.nodeIndex?_eq_some_iff.mpr hlowest)]
  ext s
  change (layout.arena.remove slot).Holds s id <-> layout.arena.Holds s id ∧ slot < s
  rw [Arena.holds_remove]
  constructor
  · intro hleft
    exact ⟨hleft.2, Nat.lt_of_le_of_ne (hlowest.2 hleft.2) (Ne.symm hleft.1)⟩
  · intro habove
    exact ⟨Nat.ne_of_gt habove.2, habove.1⟩

theorem mem_neighbors_remove (h : layout.Coherent) (hlowest : IsLeast (layout.slotsOf id) slot)
    {a b : NodeId} (ha : a ≠ id) (hb : b ≠ id) :
    b ∈ (layout.remove id).1.neighbors a <-> b ∈ layout.neighbors a := by
  have hholds : layout.arena.Holds slot id := hlowest.1
  rw [(coherent_remove h id).mem_neighbors, h.mem_neighbors, layout.nodeIndex?_remove_of_ne ha,
    fst_remove_of_slot? (h.nodeIndex?_eq_some_iff.mpr hlowest)]
  change (exists edge, edge ∈ layout.edges.map (Edge.detach slot) ∧ exists here there,
      edge.Joins here there ∧ layout.nodeIndex? a = some here ∧
        (layout.arena.remove slot).Holds there b) <->
    exists edge, edge ∈ layout.edges ∧ exists here there,
      edge.Joins here there ∧ layout.nodeIndex? a = some here ∧ layout.arena.Holds there b
  simp only [Array.mem_map, Arena.holds_remove]
  constructor
  · intro hafter
    rcases hafter with ⟨_, ⟨edge, hedge, rfl⟩, here, there, hjoins, hhere, _, hthere⟩
    exact ⟨edge, hedge, here, there, (Edge.joins_detach_iff.mp hjoins).1, hhere, hthere⟩
  · intro hbefore
    rcases hbefore with ⟨edge, hedge, here, there, hjoins, hhere, hthere⟩
    have hhereNe : here ≠ slot := by
      intro heq
      subst heq
      exact ha ((h.holds_of_nodeIndex? hhere).unique hholds)
    have hthereNe : there ≠ slot := by
      intro heq
      subst heq
      exact hb (hthere.unique hholds)
    exact ⟨edge.detach slot, ⟨edge, hedge, rfl⟩, here, there,
      Edge.joins_detach_iff.mpr ⟨hjoins, hhereNe, hthereNe⟩, hhere, hthereNe, hthere⟩

theorem removal_remove (h : layout.Coherent) (hlowest : IsLeast (layout.slotsOf id) slot) :
    Removal id slot layout (layout.remove id).1 := by
  have hindex := h.nodeIndex?_eq_some_iff.mpr hlowest
  have hafter := coherent_remove h id
  rcases hlowest.1 with ⟨node, hnode, hid⟩
  have harena : layout.arena.node? slot = some node := hnode
  constructor
  case lowest =>
    exact hlowest
  case nodes =>
    intro s
    rw [fst_remove_of_slot? hindex]
    change (layout.arena.remove slot).node? s = _
    rw [Arena.node?_remove]
    simp only [eq_comm]
    rfl
  case size =>
    rw [slots_remove, hindex]
    exact Array.size_setIfInBounds
  case vacant =>
    rw [fst_remove_of_slot? hindex]
    change (layout.arena.remove slot).vacant = _
    unfold Arena.remove
    rw [harena]
  case links =>
    rw [fst_remove_of_slot? hindex]
    exact Arena.links_remove_of_holds ⟨node, harena, hid⟩
  case edges =>
    rw [edges_remove, hindex]
    change List.Forall₂ _ layout.edges.toList (layout.edges.map (Edge.detach slot)).toList
    rw [Array.toList_map, List.forall₂_map_right_iff, List.forall₂_same]
    intro edge _
    exact Edge.losesEnds_detach slot edge
  case found =>
    intro s
    rw [← h.slotsOf_remove hlowest]
    exact hafter.nodeIndex?_eq_some_iff
  case notFound =>
    rw [← h.slotsOf_remove hlowest]
    exact hafter.nodeIndex?_eq_none_iff
  case others =>
    intro other hother
    exact layout.nodeIndex?_remove_of_ne hother
  case neighbors =>
    intro a b ha hb
    exact h.mem_neighbors_remove hlowest ha hb
  all_goals
    rw [fst_remove_of_slot? hindex]

end Coherent

theorem remove_performAll_new (dimensions : Dimensions) (config : Config α)
    (requests : List Request) (id : NodeId) :
    let layout := (new dimensions config).performAll requests
    (layout.slotsOf id = ∅ -> layout.remove id = (layout, false)) ∧
      ((layout.slotsOf id).Nonempty ->
        exists slot, (layout.remove id).2 = true ∧
          Removal id slot layout (layout.remove id).1) := by
  intro layout
  have hcoherent : layout.Coherent :=
    coherent_performAll (coherent_new dimensions config) requests
  constructor
  · intro habsent
    exact remove_of_slot?_eq_none (hcoherent.nodeIndex?_eq_none_iff.mpr habsent)
  · intro hpresent
    cases hindex : layout.nodeIndex? id with
    | none =>
        exact absurd (hcoherent.nodeIndex?_eq_none_iff.mp hindex) hpresent.ne_empty
    | some slot =>
        refine ⟨slot, ?_, hcoherent.removal_remove (hcoherent.nodeIndex?_eq_some_iff.mp hindex)⟩
        rw [hcoherent.snd_remove, hindex]
        rfl

end Layout
end GraphLayout
