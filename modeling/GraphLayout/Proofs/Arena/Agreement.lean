import GraphLayout.Proofs.Arena.Slots

/-!
# Arenas that agree in a view of their nodes

A view takes something from every node: its place, its label, a part of its velocity. Two
arenas agree by a view if the same slots are occupied and the view shows the same of the two
nodes in every slot. Whatever is computed of an arena by way of the view is then the same.
-/

namespace GraphLayout
namespace Arena

variable {α β γ : Type}

def AgreeBy (view : Node α -> β) (a b : Arena α) : Prop :=
  forall slot, (b.node? slot).map view = (a.node? slot).map view

namespace AgreeBy

variable {view : Node α -> β} {a b c : Arena α}

theorem refl (view : Node α -> β) (arena : Arena α) : AgreeBy view arena arena := by
  intro slot
  rfl

theorem symm (h : AgreeBy view a b) : AgreeBy view b a := by
  intro slot
  exact (h slot).symm

theorem trans (hab : AgreeBy view a b) (hbc : AgreeBy view b c) : AgreeBy view a c := by
  intro slot
  exact (hbc slot).trans (hab slot)

theorem comp (h : AgreeBy view a b) (part : β -> γ) :
    AgreeBy (fun node => part (view node)) a b := by
  intro slot
  have hpart := congrArg (Option.map part) (h slot)
  rw [Option.map_map, Option.map_map] at hpart
  exact hpart

theorem isSome (h : AgreeBy view a b) (slot : Nat) :
    (b.node? slot).isSome = (a.node? slot).isSome := by
  have hview := congrArg Option.isSome (h slot)
  rw [Option.isSome_map, Option.isSome_map] at hview
  exact hview

theorem node_after (h : AgreeBy view a b) {slot : Nat} {node : Node α}
    (hnode : a.node? slot = some node) :
    exists other, b.node? slot = some other ∧ view other = view node := by
  have hview := h slot
  rw [hnode, Option.map_some, Option.map_eq_some_iff] at hview
  exact hview

theorem node?_eq_none (h : AgreeBy view a b) {slot : Nat} (hnone : a.node? slot = none) :
    b.node? slot = none := by
  rw [← Option.not_isSome_iff_eq_none, h.isSome, hnone]
  exact Bool.false_ne_true

theorem presentSlots (h : AgreeBy view a b) : b.presentSlots = a.presentSlots := by
  apply b.pairwise_presentSlots.eq_of_mem_iff a.pairwise_presentSlots
  intro slot
  simp only [mem_presentSlots, ← Option.isSome_iff_exists, h.isSome slot]

theorem occupied (h : AgreeBy view a b) :
    b.occupied.map (Prod.map id view) = a.occupied.map (Prod.map id view) := by
  have hview : forall arena : Arena α, arena.occupied.map (Prod.map id view) =
      arena.presentSlots.filterMap fun slot =>
        ((arena.node? slot).map view).map fun shown => (slot, shown) := by
    intro arena
    unfold Arena.presentSlots
    rw [List.filterMap_map, ← List.filterMap_eq_map]
    apply List.filterMap_congr
    intro entry hentry
    have hnode : arena.node? entry.1 = some entry.2 := mem_occupied.mp hentry
    simp only [Function.comp_apply, hnode, Option.map_some]
    rfl
  rw [hview, hview, h.presentSlots]
  simp only [h _]

theorem nodes (h : AgreeBy view a b) : b.nodes.map view = a.nodes.map view := by
  have hsecond := congrArg (List.map Prod.snd) h.occupied
  rw [List.map_map, List.map_map] at hsecond
  rw [nodes_eq_map_occupied, nodes_eq_map_occupied, List.map_map, List.map_map]
  exact hsecond

/-- A change of a node in either arena shows the same in both if the view does not see more of
the changed node than it saw of the node before. -/
theorem map_node? (h : AgreeBy view a b) {f g : Node α -> Node α}
    (hview : forall {node other}, view other = view node -> view (g other) = view (f node))
    (slot : Nat) : ((b.node? slot).map g).map view = ((a.node? slot).map f).map view := by
  cases hnode : a.node? slot with
  | none =>
      rw [h.node?_eq_none hnode]
      rfl
  | some node =>
      rcases h.node_after hnode with ⟨other, hother, hsame⟩
      rw [hother]
      exact congrArg some (hview hsame)

theorem map (h : AgreeBy view a b) {f : Node α -> Node α}
    (hview : forall {node other}, view other = view node -> view (f other) = view (f node)) :
    AgreeBy view (a.map f) (b.map f) := by
  intro slot
  rw [node?_map, node?_map]
  exact h.map_node? hview slot

end AgreeBy

end Arena
end GraphLayout
