import GraphLayout.Layout.Simulate
import GraphLayout.Proofs.Arena.Correspondence
import GraphLayout.Proofs.Links

/-!
# Layouts without holes

Compacting a layout moves its nodes into the first slots, in their order, and renumbers
the edges between them; all other edges are dropped. Forces, the moves of the nodes, the
box around them, the rescaling and whole simulations give the same before and after.
So the slots that removals left vacant, wherever they are, change no result.
-/

namespace GraphLayout

variable {α : Type}

/-!
# Renumbering
-/

def Edge.rename (ρ : Nat -> Nat) (edge : Edge) : Edge :=
  { edge with source := edge.source.map ρ, target := edge.target.map ρ }

theorem Edge.endpoints?_rename (ρ : Nat -> Nat) (edge : Edge) :
    (edge.rename ρ).endpoints? = edge.endpoints?.map (Prod.map ρ ρ) := by
  obtain ⟨id, source, target, attributes⟩ := edge
  cases source with
  | none =>
      rfl
  | some s =>
      cases target with
      | none =>
          rfl
      | some t =>
          rfl

def SlotIndex.rename (ρ : Nat -> Nat) (index : SlotIndex) : SlotIndex :=
  ⟨index.entries.map fun entry => (entry.1, ρ entry.2)⟩

namespace Arena

def rank (arena : Arena α) (slot : Nat) : Nat :=
  arena.presentSlots.idxOf slot

def compactedEdges (arena : Arena α) (edges : Array Edge) : Array Edge :=
  (edges.filter fun edge => edge.endpoints?.any arena.hasBoth).map (Edge.rename arena.rank)

/-- The present nodes in their order, in the first slots. -/
def compacted (arena : Arena α) (edges : Array Edge) : Arena α where
  slots := (arena.nodes.map some).toArray
  vacant := []
  links := linksOf (arena.compactedEdges edges).toList

/-!
# The nodes of a compacted arena
-/

theorem node?_compacted (arena : Arena α) (edges : Array Edge) (slot : Nat) :
    (arena.compacted edges).node? slot = arena.nodes[slot]? := by
  unfold node? compacted
  rw [List.getElem?_toArray, List.getElem?_map]
  cases arena.nodes[slot]? with
  | none =>
      rfl
  | some node =>
      rfl

theorem nodes_compacted (arena : Arena α) (edges : Array Edge) :
    (arena.compacted edges).nodes = arena.nodes := by
  unfold compacted
  conv =>
    lhs
    unfold nodes
  rw [List.filterMap_map]
  exact List.filterMap_some

theorem length_nodes (arena : Arena α) : arena.nodes.length = arena.presentSlots.length := by
  rw [nodes_eq_map_occupied, presentSlots, List.length_map, List.length_map]

theorem presentSlots_compacted (arena : Arena α) (edges : Array Edge) :
    (arena.compacted edges).presentSlots = List.range arena.presentSlots.length := by
  apply (pairwise_presentSlots _).eq_of_mem_iff List.pairwise_lt_range
  intro slot
  rw [mem_presentSlots, List.mem_range, node?_compacted, ← length_nodes]
  constructor
  · intro h
    rcases h with ⟨node, hnode⟩
    exact (List.getElem?_eq_some_iff.mp hnode).1
  · intro h
    exact ⟨_, List.getElem?_eq_getElem h⟩

theorem map_rank_presentSlots (arena : Arena α) :
    arena.presentSlots.map arena.rank = List.range arena.presentSlots.length := by
  apply List.ext_getElem
  · rw [List.length_map, List.length_range]
  · intro i hi _
    rw [List.getElem_map, List.getElem_range]
    rw [List.length_map] at hi
    exact arena.nodup_presentSlots.idxOf_getElem i hi

theorem node?_compacted_rank {arena : Arena α} (edges : Array Edge) {slot : Nat}
    (h : slot ∈ arena.presentSlots) :
    (arena.compacted edges).node? (arena.rank slot) = arena.node? slot := by
  have hplace : arena.presentSlots[arena.rank slot]? = some slot := List.getElem?_idxOf h
  unfold presentSlots at hplace
  rw [List.getElem?_map, Option.map_eq_some_iff] at hplace
  rcases hplace with ⟨⟨occupied, node⟩, hentry, rfl⟩
  rw [node?_compacted, nodes_eq_map_occupied, List.getElem?_map, hentry]
  exact (mem_occupied.mp (List.mem_of_getElem? hentry)).symm

theorem corresponds_compacted (arena : Arena α) (edges : Array Edge) :
    Corresponds arena.rank arena (arena.compacted edges) where
  slots := by
    rw [presentSlots_compacted, map_rank_presentSlots]
  bodies slot hslot := by
    rw [node?_compacted_rank edges hslot]

/-!
# The edges of a compacted arena
-/

theorem endpoints?_compactedEdges (arena : Arena α) (edges : Array Edge) :
    (arena.compactedEdges edges).toList.filterMap Edge.endpoints? =
      (arena.drawn edges).map (Prod.map arena.rank arena.rank) := by
  unfold compactedEdges drawn
  rw [Array.toList_map, Array.toList_filter, List.filterMap_map, List.filterMap_filter,
    List.filter_filterMap, List.map_filterMap]
  apply List.filterMap_congr
  intro edge _
  simp only [Function.comp_apply, Edge.endpoints?_rename]
  cases edge.endpoints? with
  | none =>
      rfl
  | some ends =>
      cases hboth : arena.hasBoth ends with
      | false =>
          simp [hboth]
      | true =>
          simp [Option.filter_some, hboth]

theorem drawn_compacted (arena : Arena α) (edges : Array Edge) :
    (arena.compacted edges).drawn (arena.compactedEdges edges) =
      (arena.drawn edges).map (Prod.map arena.rank arena.rank) := by
  unfold Arena.drawn
  rw [endpoints?_compactedEdges]
  unfold Arena.drawn
  -- no end of a compacted edge lies beyond the nodes
  rw [List.filter_eq_self]
  intro pair hpair
  rcases List.mem_map.mp hpair with ⟨ends, hends, rfl⟩
  rcases hasBoth_iff.mp (List.mem_filter.mp hends).2 with ⟨hfirst, hsecond⟩
  rw [hasBoth_iff, (arena.corresponds_compacted edges).slots]
  exact ⟨List.mem_map_of_mem hfirst, List.mem_map_of_mem hsecond⟩

/-!
# Changes before and after compaction

A change that keeps the labels of the nodes and gives the same bodies on both sides
commutes with compaction.
-/

theorem SameNodes.nodes_label {a b : Arena α} (h : SameNodes a b) :
    b.nodes.map Node.label = a.nodes.map Node.label :=
  h.agreeBy.nodes

theorem SameNodes.rank {a b : Arena α} (h : SameNodes a b) : b.rank = a.rank := by
  unfold Arena.rank
  rw [h.presentSlots]

theorem SameNodes.compactedEdges {a b : Arena α} (h : SameNodes a b) (edges : Array Edge) :
    b.compactedEdges edges = a.compactedEdges edges := by
  unfold Arena.compactedEdges
  rw [h.rank, funext h.hasBoth]

theorem eq_of_label_of_body {xs ys : List (Node α)}
    (hlabel : xs.map Node.label = ys.map Node.label)
    (hbody : xs.map Node.body = ys.map Node.body) : xs = ys := by
  have hpair : Function.Injective fun node : Node α => (node.label, node.body) := by
    intro a b h
    cases a
    cases b
    simp only [Node.label, Node.body, Prod.mk.injEq] at h
    simp [h]
  have hzip : forall nodes : List (Node α), nodes.map (fun node => (node.label, node.body)) =
      (nodes.map Node.label).zip (nodes.map Node.body) :=
    fun nodes => List.zip_map'.symm
  apply List.map_injective_iff.mpr hpair
  rw [hzip, hzip, hlabel, hbody]

theorem slots_of_sameNodes_compacted {arena b : Arena α} {edges : Array Edge}
    (h : SameNodes (arena.compacted edges) b) : b.slots = (b.nodes.map some).toArray := by
  have hoccupied : forall entry, entry ∈ b.slots.toList -> entry.isSome = true := by
    intro entry hentry
    rcases List.getElem?_of_mem hentry with ⟨slot, hslot⟩
    rw [Array.getElem?_toList] at hslot
    have hlt : slot < arena.nodes.length := by
      have hsize := (Array.getElem?_eq_some_iff.mp hslot).1
      rw [h.size] at hsize
      simpa [compacted] using hsize
    have hsome := h.isSome slot
    rw [node?_compacted, List.getElem?_eq_getElem hlt] at hsome
    unfold node? at hsome
    rw [hslot] at hsome
    exact hsome
  have hlist : b.slots.toList = b.nodes.map some := by
    unfold nodes
    rw [List.map_filterMap]
    conv =>
      lhs
      rw [← List.filterMap_some (l := b.slots.toList)]
    apply List.filterMap_congr
    intro entry hentry
    cases entry with
    | none =>
        cases hoccupied none hentry
    | some node =>
        rfl
  rw [← hlist]

theorem eq_compacted {ρ : Nat -> Nat} {arena after b : Arena α} {edges : Array Edge}
    (hafter : SameNodes arena after) (hb : SameNodes (arena.compacted edges) b)
    (hcorresponds : Corresponds ρ after b) : b = after.compacted edges := by
  have hnodes : b.nodes = after.nodes := by
    apply eq_of_label_of_body
    · rw [hb.nodes_label, nodes_compacted, hafter.nodes_label]
    · exact hcorresponds.map_body_nodes
  have hslots := slots_of_sameNodes_compacted hb
  have hvacant := hb.vacant
  have hlinks := hb.links
  obtain ⟨slots, vacant, links⟩ := b
  unfold compacted at hvacant hlinks ⊢
  rw [hafter.compactedEdges]
  rw [hnodes] at hslots
  simp only at hslots hvacant hlinks
  rw [hslots, hvacant, hlinks]

section Changes

variable [Scalar α] (arena : Arena α) (edges : Array Edge) (config : Config α)
  (dimensions : Dimensions)

theorem attract_compacted :
    (arena.compacted edges).attract config dimensions (arena.compactedEdges edges) =
      (arena.attract config dimensions edges).compacted edges := by
  apply eq_compacted (sameNodes_attract config dimensions edges arena)
    (sameNodes_attract config dimensions _ _)
  exact (arena.corresponds_compacted edges).attract config dimensions
    (arena.drawn_compacted edges)

theorem repel_compacted :
    (arena.compacted edges).repel config dimensions =
      (arena.repel config dimensions).compacted edges :=
  eq_compacted (sameNodes_repel config dimensions arena) (sameNodes_repel config dimensions _)
    ((arena.corresponds_compacted edges).repel config dimensions)

theorem gravitate_compacted :
    (arena.compacted edges).gravitate config = (arena.gravitate config).compacted edges :=
  eq_compacted (sameNodes_gravitate config arena) (sameNodes_gravitate config _)
    ((arena.corresponds_compacted edges).gravitate config)

theorem advance_compacted :
    (arena.compacted edges).advance config = (arena.advance config).compacted edges :=
  eq_compacted (sameNodes_advance config arena) (sameNodes_advance config _)
    ((arena.corresponds_compacted edges).advance config)

theorem speeds_compacted : (arena.compacted edges).speeds = arena.speeds :=
  (arena.corresponds_compacted edges).speeds

theorem bounds?_compacted : (arena.compacted edges).bounds? = arena.bounds? := by
  unfold bounds?
  rw [(arena.corresponds_compacted edges).positions]

theorem normalize_compacted :
    (arena.compacted edges).normalize = arena.normalize.compacted edges :=
  eq_compacted (sameNodes_normalize arena) (sameNodes_normalize _)
    (arena.corresponds_compacted edges).normalize

theorem step_compacted :
    (arena.compacted edges).step config dimensions (arena.compactedEdges edges) =
      ((arena.step config dimensions edges).1.compacted edges,
        (arena.step config dimensions edges).2) := by
  unfold step
  simp only [attract_compacted, repel_compacted, gravitate_compacted, advance_compacted,
    speeds_compacted]

end Changes

end Arena

/-!
# Simulations
-/

namespace Layout

def compacted (layout : Layout α) : Layout α :=
  { layout with
    arena := layout.arena.compacted layout.edges
    index := layout.index.rename layout.arena.rank
    edges := layout.arena.compactedEdges layout.edges }

theorem nodeCount_compacted (layout : Layout α) :
    layout.compacted.nodeCount = layout.nodeCount := by
  change (layout.arena.compacted layout.edges).count = layout.arena.count
  rw [Arena.count_eq_length_presentSlots, Arena.count_eq_length_presentSlots,
    Arena.presentSlots_compacted, List.length_range]

variable [Scalar α]

theorem run_compacted (layout : Layout α) :
    layout.compacted.run =
      ⟨layout.run.arena.compacted layout.edges, layout.run.iterations, layout.run.movement⟩ ∧
    Arena.SameNodes layout.arena layout.run.arena := by
  -- along the run, one arena is the other one compacted, with the renumbering of the start
  have hstep : forall a b : Arena α,
      (Arena.SameNodes layout.arena a ∧ b = a.compacted layout.edges) ->
      (Arena.SameNodes layout.arena (a.step layout.config layout.dimensions layout.edges).1 ∧
        (b.step layout.config layout.dimensions (layout.arena.compactedEdges layout.edges)).1 =
          (a.step layout.config layout.dimensions layout.edges).1.compacted layout.edges) ∧
      (b.step layout.config layout.dimensions (layout.arena.compactedEdges layout.edges)).2 =
        (a.step layout.config layout.dimensions layout.edges).2 := by
    intro a b h
    rcases h with ⟨hsame, rfl⟩
    rw [← hsame.compactedEdges, Arena.step_compacted]
    exact ⟨⟨hsame.trans (Arena.sameNodes_step _ _ _ a), rfl⟩, rfl⟩
  rcases Arena.settle_related hstep layout.config.movementThreshold
    layout.config.maxIterations.toNat 0 ⟨Arena.SameNodes.refl layout.arena, rfl⟩ with
    ⟨⟨hsame, harena⟩, hiterations, hmovement⟩
  refine ⟨?_, hsame⟩
  change layout.compacted.run.arena = _ at harena
  change layout.compacted.run.iterations = _ at hiterations
  change layout.compacted.run.movement = _ at hmovement
  calc layout.compacted.run
      = ⟨layout.compacted.run.arena, layout.compacted.run.iterations,
          layout.compacted.run.movement⟩ := rfl
    _ = _ := by rw [harena, hiterations, hmovement]; rfl

theorem simulate_compacted (layout : Layout α) :
    layout.compacted.simulate = (layout.simulate.1.compacted, layout.simulate.2) := by
  rcases layout.run_compacted with ⟨hrun, hsame⟩
  have hnormal := hsame.trans (Arena.sameNodes_normalize layout.run.arena)
  have hlayout : layout.compacted.simulate.1 = layout.simulate.1.compacted := by
    unfold simulate
    rw [hrun]
    unfold compacted
    simp only
    rw [Arena.normalize_compacted, hnormal.rank, hnormal.compactedEdges]
  have hlog : layout.compacted.simulate.2 = layout.simulate.2 := by
    have hcount : layout.compacted.simulate.1.nodeCount = layout.simulate.1.nodeCount := by
      rw [hlayout, nodeCount_compacted]
    unfold simulate at hcount ⊢
    simp only at hcount ⊢
    rw [hcount, hrun]
    rfl
  exact Prod.ext hlayout hlog

/-- Nothing that is computed of a layout depends on which slots are vacant. -/
theorem compacted_computes_alike (layout : Layout α) :
    (forall slot, layout.compacted.node? slot = layout.nodes[slot]?) ∧
      layout.compacted.arena.attract layout.config layout.dimensions layout.compacted.edges =
        (layout.arena.attract layout.config layout.dimensions layout.edges).compacted
          layout.edges ∧
      layout.compacted.arena.repel layout.config layout.dimensions =
        (layout.arena.repel layout.config layout.dimensions).compacted layout.edges ∧
      layout.compacted.arena.gravitate layout.config =
        (layout.arena.gravitate layout.config).compacted layout.edges ∧
      layout.compacted.arena.advance layout.config =
        (layout.arena.advance layout.config).compacted layout.edges ∧
      Scalar.sum layout.compacted.arena.speeds = Scalar.sum layout.arena.speeds ∧
      layout.compacted.bounds? = layout.bounds? ∧
      layout.compacted.arena.normalize = layout.arena.normalize.compacted layout.edges ∧
      layout.compacted.simulate = (layout.simulate.1.compacted, layout.simulate.2) := by
  refine ⟨layout.arena.node?_compacted _, layout.arena.attract_compacted _ _ _,
    layout.arena.repel_compacted _ _ _, layout.arena.gravitate_compacted _ _,
    layout.arena.advance_compacted _ _, ?_, layout.arena.bounds?_compacted _,
    layout.arena.normalize_compacted _, layout.simulate_compacted⟩
  exact congrArg Scalar.sum (layout.arena.speeds_compacted layout.edges)

end Layout
end GraphLayout
