import GraphLayout.Layout.Neighbors
import GraphLayout.Proofs.Consistency

/-!
# Neighbors

The neighbors of an id are read off the links of the arena, while the edges are a list
of their own. In a coherent layout the two say the same, and an end of an edge is the
slot that the id of its node finds; so neighbors are exact, and each is a neighbor of
the other.
-/

namespace GraphLayout

/-!
# Ascending ids
-/

namespace NodeId

theorem lt_trans {a b c : NodeId} (hab : a < b) (hbc : b < c) : a < c :=
  Int64.lt_trans hab hbc

theorem lt_of_not_lt_of_ne {a b : NodeId} (hlt : ¬a < b) (hne : a ≠ b) : b < a := by
  have hle : b.raw ≤ a.raw := Int64.not_lt.mp hlt
  apply Int64.lt_of_le_of_ne hle
  intro hraw
  cases a
  cases b
  exact hne (congrArg NodeId.mk hraw.symm)

theorem pairwise_place {id : NodeId} {ids : List NodeId} (h : ids.Pairwise (· < ·)) :
    (place id ids).Pairwise (· < ·) := by
  induction ids with
  | nil =>
      exact List.pairwise_singleton _ id
  | cons first rest ih =>
      rcases List.pairwise_cons.mp h with ⟨hfirst, hrest⟩
      unfold place
      by_cases hlt : id < first
      · rw [if_pos hlt]
        apply List.Pairwise.cons _ h
        intro other hother
        cases List.mem_cons.mp hother with
        | inl heq =>
            rw [heq]
            exact hlt
        | inr hmem =>
            exact lt_trans hlt (hfirst other hmem)
      · rw [if_neg hlt]
        by_cases heq : id = first
        · rw [if_pos heq]
          exact h
        · rw [if_neg heq]
          apply List.Pairwise.cons _ (ih hrest)
          intro other hother
          cases mem_place.mp hother with
          | inl hid =>
              rw [hid]
              exact lt_of_not_lt_of_ne hlt heq
          | inr hmem =>
              exact hfirst other hmem

theorem pairwise_ascending (ids : List NodeId) : (ascending ids).Pairwise (· < ·) := by
  induction ids with
  | nil =>
      exact List.Pairwise.nil
  | cons first rest ih =>
      exact pairwise_place ih

end NodeId

/-!
# Joined slots
-/

/-- The ends of the edge are the two slots, in one order or the other. -/
def Edge.Joins (edge : Edge) (here there : Nat) : Prop :=
  edge.endpoints? = some (here, there) ∨ edge.endpoints? = some (there, here)

theorem Edge.joins_comm {edge : Edge} {here there : Nat} :
    edge.Joins here there <-> edge.Joins there here :=
  or_comm

theorem Edge.Joins.touches {edge : Edge} {here there : Nat} (h : edge.Joins here there) :
    edge.touches there = true := by
  rw [touches_iff]
  cases h with
  | inl hends =>
      exact Or.inr (endpoints?_eq_some_iff.mp hends).2
  | inr hends =>
      exact Or.inl (endpoints?_eq_some_iff.mp hends).1

namespace Arena

variable {α : Type}

theorem mem_adjacent {arena : Arena α} {here there : Nat} :
    there ∈ arena.adjacent here <->
      exists link, link ∈ arena.links ∧
        ((link.source, link.target) = (here, there) ∨
          (link.source, link.target) = (there, here)) := by
  unfold adjacent
  simp only [List.mem_append, List.mem_map, List.mem_filter, beq_iff_eq, Prod.mk.injEq]
  constructor
  · intro h
    rcases h with ⟨link, ⟨hmem, hhere⟩, hthere⟩ | ⟨link, ⟨hmem, hhere⟩, hthere⟩
    · exact ⟨link, hmem, Or.inl ⟨hhere, hthere⟩⟩
    · exact ⟨link, hmem, Or.inr ⟨hthere, hhere⟩⟩
  · intro h
    rcases h with ⟨link, hmem, ⟨hhere, hthere⟩ | ⟨hthere, hhere⟩⟩
    · exact Or.inl ⟨link, ⟨hmem, hhere⟩, hthere⟩
    · exact Or.inr ⟨link, ⟨hmem, hhere⟩, hthere⟩

end Arena

namespace Layout

variable {α : Type}

theorem mem_neighbors_iff_adjacent {layout : Layout α} {a b : NodeId} :
    b ∈ layout.neighbors a <->
      exists here there, layout.nodeIndex? a = some here ∧
        there ∈ layout.arena.adjacent here ∧ layout.arena.Holds there b := by
  unfold neighbors
  cases hindex : layout.nodeIndex? a with
  | none =>
      simp
  | some slot =>
      simp only [NodeId.mem_ascending, List.mem_filterMap, Option.map_eq_some_iff,
        Option.some.injEq]
      constructor
      · intro h
        rcases h with ⟨there, hadjacent, hholds⟩
        exact ⟨slot, there, rfl, hadjacent, hholds⟩
      · intro h
        rcases h with ⟨_, there, rfl, hadjacent, hholds⟩
        exact ⟨there, hadjacent, hholds⟩

theorem pairwise_neighbors (layout : Layout α) (id : NodeId) :
    (layout.neighbors id).Pairwise (· < ·) := by
  unfold neighbors
  cases layout.nodeIndex? id with
  | none =>
      exact List.Pairwise.nil
  | some slot =>
      exact NodeId.pairwise_ascending _

variable [Scalar α]

namespace Coherent

variable {layout : Layout α}

theorem mem_adjacent (h : layout.Coherent) {here there : Nat} :
    there ∈ layout.arena.adjacent here <->
      exists edge, edge ∈ layout.edges ∧ edge.Joins here there := by
  rw [Arena.mem_adjacent, h.links]
  constructor
  · intro hlink
    rcases hlink with ⟨link, hmem, hends⟩
    rcases Option.bind_eq_some_iff.mp (mem_linksOf.mp hmem) with ⟨edge, hedge, hpair⟩
    refine ⟨edge, Array.mem_def.mpr (List.mem_of_getElem? hedge), ?_⟩
    unfold Edge.Joins
    rw [hpair, Option.some.injEq, Option.some.injEq]
    exact hends
  · intro hedge
    rcases hedge with ⟨edge, hmem, hjoins⟩
    rcases List.getElem?_of_mem (Array.mem_def.mp hmem) with ⟨place, hplace⟩
    have hlink : forall source target, edge.endpoints? = some (source, target) ->
        (⟨source, target, place⟩ : Link) ∈ linksOf layout.edges.toList := by
      intro source target hends
      rw [mem_linksOf, Option.bind_eq_some_iff]
      exact ⟨edge, hplace, hends⟩
    cases hjoins with
    | inl hends =>
        exact ⟨_, hlink here there hends, Or.inl rfl⟩
    | inr hends =>
        exact ⟨_, hlink there here hends, Or.inr rfl⟩

theorem mem_neighbors (h : layout.Coherent) {a b : NodeId} :
    b ∈ layout.neighbors a <->
      exists edge, edge ∈ layout.edges ∧ exists here there, edge.Joins here there ∧
        layout.nodeIndex? a = some here ∧
        exists node, layout.node? there = some node ∧ node.id = b := by
  rw [mem_neighbors_iff_adjacent]
  simp only [h.mem_adjacent]
  constructor
  · intro hneighbor
    rcases hneighbor with ⟨here, there, hhere, ⟨edge, hedge, hjoins⟩, hthere⟩
    exact ⟨edge, hedge, here, there, hjoins, hhere, hthere⟩
  · intro hedge
    rcases hedge with ⟨edge, hedge, here, there, hjoins, hhere, hthere⟩
    exact ⟨here, there, hhere, ⟨edge, hedge, hjoins⟩, hthere⟩

theorem nodeIndex?_of_touches (h : layout.Coherent) {edge : Edge} (hedge : edge ∈ layout.edges)
    {slot : Nat} (htouches : edge.touches slot = true) {id : NodeId}
    (hholds : layout.arena.Holds slot id) : layout.nodeIndex? id = some slot := by
  rcases h.ends edge (Array.mem_def.mp hedge) slot htouches with ⟨other, hother⟩
  rw [hholds.unique (Arena.holds_of_slotOf? hother)]
  exact (h.lookup other).trans hother

theorem holds_of_nodeIndex? (h : layout.Coherent) {id : NodeId} {slot : Nat}
    (hindex : layout.nodeIndex? id = some slot) : layout.arena.Holds slot id :=
  Arena.holds_of_slotOf? ((h.lookup id).symm.trans hindex)

theorem mem_neighbors_comm (h : layout.Coherent) {a b : NodeId} :
    b ∈ layout.neighbors a <-> a ∈ layout.neighbors b := by
  have hswap : forall {a b : NodeId}, b ∈ layout.neighbors a -> a ∈ layout.neighbors b := by
    intro a b hb
    rcases h.mem_neighbors.mp hb with ⟨edge, hedge, here, there, hjoins, hhere, hthere⟩
    have hindex : layout.nodeIndex? b = some there :=
      h.nodeIndex?_of_touches hedge hjoins.touches hthere
    exact h.mem_neighbors.mpr ⟨edge, hedge, there, here, Edge.joins_comm.mp hjoins, hindex,
      h.holds_of_nodeIndex? hhere⟩
  exact ⟨hswap, hswap⟩

theorem mem_neighbors_self (h : layout.Coherent) {id : NodeId} :
    id ∈ layout.neighbors id <->
      exists edge, edge ∈ layout.edges ∧ exists slot, edge.endpoints? = some (slot, slot) ∧
        layout.nodeIndex? id = some slot := by
  rw [h.mem_neighbors]
  constructor
  · intro hself
    rcases hself with ⟨edge, hedge, here, there, hjoins, hhere, hthere⟩
    have hindex := h.nodeIndex?_of_touches hedge hjoins.touches hthere
    rw [hhere] at hindex
    cases hindex
    exact ⟨edge, hedge, here, hjoins.elim (fun hends => hends) (fun hends => hends), hhere⟩
  · intro hloop
    rcases hloop with ⟨edge, hedge, slot, hends, hindex⟩
    exact ⟨edge, hedge, slot, slot, Or.inl hends, hindex, h.holds_of_nodeIndex? hindex⟩

theorem neighbors_eq_nil (h : layout.Coherent) {id : NodeId}
    (habsent : forall slot node, layout.node? slot = some node -> node.id ≠ id) :
    layout.neighbors id = [] := by
  have hindex : layout.nodeIndex? id = none := (h.consistent.notFound id).mpr habsent
  unfold neighbors
  rw [hindex]

end Coherent

theorem neighbors_performAll_new (dimensions : Dimensions) (config : Config α)
    (requests : List Request) (a b : NodeId) :
    let layout := (new dimensions config).performAll requests
    (layout.neighbors a).Pairwise (· < ·) ∧
      (b ∈ layout.neighbors a <->
        exists edge, edge ∈ layout.edges ∧ exists here there, edge.Joins here there ∧
          layout.nodeIndex? a = some here ∧
          exists node, layout.node? there = some node ∧ node.id = b) ∧
      (a ∈ layout.neighbors a <->
        exists edge, edge ∈ layout.edges ∧ exists slot, edge.endpoints? = some (slot, slot) ∧
          layout.nodeIndex? a = some slot) ∧
      ((forall slot node, layout.node? slot = some node -> node.id ≠ a) ->
        layout.neighbors a = []) ∧
      (b ∈ layout.neighbors a <-> a ∈ layout.neighbors b) := by
  intro layout
  have hcoherent : layout.Coherent :=
    coherent_performAll (coherent_new dimensions config) requests
  exact ⟨layout.pairwise_neighbors a, hcoherent.mem_neighbors, hcoherent.mem_neighbors_self,
    hcoherent.neighbors_eq_nil, hcoherent.mem_neighbors_comm⟩

/-- Parallel and opposite edges count once, and an edge of a node that shares its id with
an earlier one goes to the earlier one. -/
example :
    let graph : Graph := ⟨[.node 3 .empty, .node 1 .empty, .node 3 .empty, .node 2 .empty,
      .edge (-1) 3 1 .empty, .edge (-2) 1 3 .empty, .edge (-3) 3 3 .empty,
      .edge (-4) 2 3 .empty, .edge (-5) 3 2 .empty]⟩
    let layout := (new .two (Config.default : Config Float)).performAll [.load graph]
    layout.neighbors ⟨3⟩ = [⟨1⟩, ⟨2⟩, ⟨3⟩] ∧
      (layout.perform (.remove ⟨3⟩)).neighbors ⟨3⟩ = [] := by
  decide

end Layout
end GraphLayout
