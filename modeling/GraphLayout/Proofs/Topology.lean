import GraphLayout.Proofs.Arena.Correspondence
import GraphLayout.Proofs.Requests

/-!
# The topology of a graph decides its layout

The place of a node depends on the number of nodes and on the edges with both ends,
as pairs of slots in the order of loading. Ids, attributes, edges with an absent end
and the order in which nodes and edges alternate play no part, and nor does what the
layout was used for before.
-/

namespace GraphLayout

variable {α : Type} [Scalar α]

def Spiral.after : Nat -> Spiral α
  | 0 => start
  | n + 1 => (after n).advance

namespace Layout

/-!
# First places
-/

/-- The state while a graph is loaded into a layout, as far as simulations see it. The
first slots hold nodes at rest along the spiral. -/
structure Seeded (origin layout : Layout α) : Prop where
  config : layout.config = origin.config
  dimensions : layout.dimensions = origin.dimensions
  iterations : layout.iterations = 0
  spiral : layout.spiral = Spiral.after layout.arena.slots.size
  bodies : forall slot, (layout.arena.node? slot).map Node.body =
    if slot < layout.arena.slots.size then
      some ((Spiral.after (slot + 1)).point origin.dimensions, Vec3.zero)
    else none

theorem seeded_clear (layout : Layout α) : Seeded layout layout.clear where
  config := rfl
  dimensions := rfl
  iterations := rfl
  spiral := rfl
  bodies _ := rfl

theorem Seeded.addNode {origin layout : Layout α} (h : Seeded origin layout)
    (full : layout.arena.vacant = []) (element : Element) :
    Seeded origin (layout.addNode element) := by
  have hsize : (layout.addNode element).arena.slots.size = layout.arena.slots.size + 1 := by
    rw [arena_addNode, Arena.size_insert_of_full full]
  have hspiral : layout.spiral.advance = Spiral.after (layout.arena.slots.size + 1) :=
    congrArg Spiral.advance h.spiral
  constructor
  case config =>
    exact h.config
  case dimensions =>
    exact h.dimensions
  case iterations =>
    exact h.iterations
  case spiral =>
    rw [hsize]
    exact hspiral
  case bodies =>
    intro slot
    rw [hsize, arena_addNode, Arena.node?_insert_of_full full]
    by_cases hslot : slot = layout.arena.slots.size
    · rw [if_pos hslot, hslot, if_pos (Nat.lt_succ_self _), ← h.dimensions, ← hspiral]
      rfl
    · rw [if_neg hslot, h.bodies]
      cases Nat.lt_or_ge slot layout.arena.slots.size with
      | inl hlt =>
          rw [if_pos hlt, if_pos (Nat.lt_succ_of_lt hlt)]
      | inr hge =>
          rw [if_neg (Nat.not_lt_of_le hge), if_neg (by omega)]

theorem Seeded.addEdge {origin layout : Layout α} (h : Seeded origin layout) (edge : Edge) :
    Seeded origin (layout.addEdge edge) where
  config := h.config
  dimensions := h.dimensions
  iterations := h.iterations
  spiral := by
    rw [arena_addEdge]
    exact h.spiral
  bodies := by
    rw [arena_addEdge]
    exact h.bodies

theorem seeded_load (layout : Layout α) (graph : Graph) :
    Seeded layout (layout.load graph).1 := by
  apply load_induction (P := fun _ loaded => Seeded layout loaded)
  · exact seeded_clear layout
  · intro _ loaded element full _ h
    exact h.addNode full element
  · intro _ loaded element _ h
    exact h.addEdge (loaded.resolve element)

theorem Seeded.presentSlots {origin layout : Layout α} (h : Seeded origin layout) :
    layout.arena.presentSlots = List.range layout.arena.slots.size := by
  apply layout.arena.pairwise_presentSlots.eq_of_mem_iff List.pairwise_lt_range
  intro slot
  rw [Arena.mem_presentSlots, ← Option.isSome_iff_exists, ← Option.isSome_map (f := Node.body),
    h.bodies, List.mem_range]
  cases Nat.lt_or_ge slot layout.arena.slots.size with
  | inl hlt =>
      simp [hlt]
  | inr hge =>
      simp [Nat.not_lt_of_le hge]

theorem Seeded.size {origin layout : Layout α} (h : Seeded origin layout) :
    layout.arena.slots.size = layout.nodeCount := by
  change _ = layout.arena.count
  rw [Arena.count_eq_length_presentSlots, h.presentSlots, List.length_range]

/-!
# Two layouts
-/

/-- The layouts differ in nothing that a simulation sees, when the slots of the first
one are renamed. -/
structure Alike (ρ : Nat -> Nat) (first second : Layout α) : Prop where
  config : second.config = first.config
  dimensions : second.dimensions = first.dimensions
  iterations : second.iterations = first.iterations
  arena : Arena.Alike ρ first.edges second.edges first.arena second.arena

namespace Alike

variable {ρ : Nat -> Nat} {first second : Layout α}

theorem simulate (h : Alike ρ first second) : Alike ρ first.simulate.1 second.simulate.1 := by
  have hrun : Arena.Alike ρ first.edges second.edges first.run.arena second.run.arena ∧
      second.run.iterations = first.run.iterations := by
    unfold run
    rw [h.config, h.dimensions]
    rcases Arena.settle_related (fun a b hab => hab.step first.config first.dimensions)
      first.config.movementThreshold first.config.maxIterations.toNat 0 h.arena with
      ⟨harena, hiterations, _⟩
    exact ⟨harena, hiterations⟩
  exact ⟨h.config, h.dimensions, hrun.2, hrun.1.normalize⟩

theorem simulations (h : Alike ρ first second) (n : Nat) :
    Alike ρ (first.performAll (List.replicate n .simulate))
      (second.performAll (List.replicate n .simulate)) := by
  induction n generalizing first second with
  | zero =>
      exact h
  | succ n ih =>
      exact ih h.simulate

omit [Scalar α] in
theorem positions (h : Alike ρ first second) : second.positions = first.positions := by
  unfold Layout.positions
  rw [h.arena.nodes.positions]

end Alike

theorem alike_load {first second : Layout α} {graph graph' : Graph}
    (hconfig : second.config = first.config) (hdimensions : second.dimensions = first.dimensions)
    (hcount : (second.load graph').1.nodeCount = (first.load graph).1.nodeCount)
    (hends : (second.load graph').1.edges.toList.filterMap Edge.endpoints? =
      (first.load graph).1.edges.toList.filterMap Edge.endpoints?) :
    Alike id (first.load graph).1 (second.load graph').1 := by
  have hfirst := seeded_load first graph
  have hsecond := seeded_load second graph'
  have hsize : (second.load graph').1.arena.slots.size =
      (first.load graph).1.arena.slots.size := by
    rw [hfirst.size, hsecond.size]
    exact hcount
  have hnodes : Arena.Corresponds id (first.load graph).1.arena (second.load graph').1.arena := by
    constructor
    · rw [hfirst.presentSlots, hsecond.presentSlots, hsize, List.map_id]
    · intro slot _
      change ((second.load graph').1.arena.node? slot).map Node.body = _
      rw [hfirst.bodies, hsecond.bodies, hsize, hdimensions]
  have hboth : (second.load graph').1.arena.hasBoth = (first.load graph).1.arena.hasBoth := by
    funext pair
    rw [Bool.eq_iff_iff, Arena.hasBoth_iff, Arena.hasBoth_iff, hnodes.slots, List.map_id]
  constructor
  case config =>
    rw [hfirst.config, hsecond.config]
    exact hconfig
  case dimensions =>
    rw [hfirst.dimensions, hsecond.dimensions]
    exact hdimensions
  case iterations =>
    rw [hfirst.iterations, hsecond.iterations]
  case arena =>
    refine ⟨hnodes, ?_⟩
    unfold Arena.drawn
    rw [hends, hboth, Prod.map_id, List.map_id]

theorem positions_eq_of_topology (first second : Layout α) (graph graph' : Graph)
    (hconfig : second.config = first.config) (hdimensions : second.dimensions = first.dimensions)
    (hcount : (second.load graph').1.nodeCount = (first.load graph).1.nodeCount)
    (hends : (second.load graph').1.edges.toList.filterMap Edge.endpoints? =
      (first.load graph).1.edges.toList.filterMap Edge.endpoints?) (n : Nat) :
    ((second.load graph').1.performAll (List.replicate n .simulate)).positions =
        ((first.load graph).1.performAll (List.replicate n .simulate)).positions ∧
      ((second.load graph').1.performAll (List.replicate n .simulate)).iterations =
        ((first.load graph).1.performAll (List.replicate n .simulate)).iterations := by
  have halike := (alike_load hconfig hdimensions hcount hends).simulations n
  exact ⟨halike.positions, halike.iterations⟩

/-- Ids, names, edges without an end and a former graph make no difference. -/
theorem positions_eq_of_topology_dangling :
    let graph : Graph := ⟨[.node 1 .empty, .node 2 .empty, .edge (-1) 1 2 .empty]⟩
    let graph' : Graph := ⟨[.node 7 (.ofList [("name", "seven")]), .edge (-2) 7 8 .empty,
      .node 8 .empty, .edge (-9) 7 8 .empty, .edge (-3) 8 99 .empty]⟩
    let first : Layout Float := default
    let second : Layout Float := first.performAll [.load graph, .simulate, .remove ⟨1⟩]
    (second.config = first.config ∧ second.dimensions = first.dimensions ∧
      (second.load graph').1.nodeCount = (first.load graph).1.nodeCount ∧
      (second.load graph').1.edges.toList.filterMap Edge.endpoints? =
        (first.load graph).1.edges.toList.filterMap Edge.endpoints?) ∧
      ((second.load graph').1.performAll [.simulate, .simulate]).positions =
        ((first.load graph).1.performAll [.simulate, .simulate]).positions ∧
      ((second.load graph').1.performAll [.simulate, .simulate]).iterations =
        ((first.load graph).1.performAll [.simulate, .simulate]).iterations := by
  intro graph graph' first second
  have hconfig : second.config = first.config := rfl
  have hdimensions : second.dimensions = first.dimensions := rfl
  have hcount : (second.load graph').1.nodeCount = (first.load graph).1.nodeCount := by
    decide
  have hends : (second.load graph').1.edges.toList.filterMap Edge.endpoints? =
      (first.load graph).1.edges.toList.filterMap Edge.endpoints? := by
    decide
  refine ⟨⟨hconfig, hdimensions, hcount, hends⟩, ?_⟩
  exact positions_eq_of_topology first second graph graph' hconfig hdimensions hcount hends 2

end Layout
end GraphLayout
