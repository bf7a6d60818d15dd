import GraphLayout.Proofs.Requests
import GraphLayout.Proofs.Simulation

/-!
# Consistency of a layout

A layout says three things about its graph more than once: where the node with an id
is (the index and the arena), where an edge ends (the edge and the arena), and which
slots are linked (the list of edges and the links of the arena). Every request keeps
them in agreement.
-/

namespace GraphLayout
namespace Layout

variable {α : Type}

/-!
# The invariant

An end of an edge is always a slot that some id finds. As the search finds no other
slot for that id, a removal that makes the next node with an id visible cannot give
an edge an end there.
-/

structure Coherent [Scalar α] (layout : Layout α) : Prop where
  lookup : forall id, layout.index.slot? id = layout.arena.slotOf? id
  ends : forall edge, edge ∈ layout.edges.toList -> forall slot, edge.touches slot = true ->
    exists id, layout.arena.slotOf? id = some slot
  links : layout.arena.links = linksOf layout.edges.toList
  nodeIds : forall slot id, layout.arena.Holds slot id -> 0 ≤ id.raw
  edgeIds : forall edge, edge ∈ layout.edges.toList -> edge.id.raw < 0
  atRest : layout.arena.AtRest

variable [Scalar α]

theorem coherent_new (dimensions : Dimensions) (config : Config α) :
    (new dimensions config).Coherent where
  lookup id := rfl
  ends edge hedge := by
    cases hedge
  links := rfl
  nodeIds slot id hholds := by
    rcases hholds with ⟨node, hnode, _⟩
    change (Arena.empty : Arena α).node? slot = some node at hnode
    rw [Arena.node?_empty] at hnode
    cases hnode
  edgeIds edge hedge := by
    cases hedge
  atRest := Arena.atRest_empty

/-!
# Loading
-/

theorem coherent_addNode {layout : Layout α} {element : Element}
    (h : layout.Coherent) (full : layout.arena.vacant = []) (hkind : element.isEdge = false) :
    (layout.addNode element).Coherent := by
  let node := layout.newNode element
  constructor
  case lookup =>
    intro id
    change (layout.index.enter node.id (layout.arena.insert node).2).slot? id = _
    rw [arena_addNode, SlotIndex.slot?_enter, Arena.slotOf?_insert_of_full full, h.lookup,
      h.lookup, Arena.insert_of_full full]
    change (if id = node.id then _ else _) = if id = node.id then _ else _
    by_cases hid : id = node.id
    · rw [if_pos hid, if_pos hid, hid]
    · rw [if_neg hid, if_neg hid]
  case ends =>
    intro edge hedge slot htouches
    rcases h.ends edge hedge slot htouches with ⟨id, hid⟩
    refine ⟨id, ?_⟩
    rw [arena_addNode, Arena.slotOf?_insert_of_full full, hid]
    split <;> rfl
  case links =>
    rw [arena_addNode, Arena.insert_of_full full]
    exact h.links
  case nodeIds =>
    intro slot id hholds
    rw [arena_addNode, Arena.holds_insert_of_full full] at hholds
    rcases hholds with hold | ⟨_, rfl⟩
    · exact h.nodeIds slot id hold
    · change 0 ≤ element.id
      rw [← Int64.not_lt]
      simpa [Element.isEdge] using hkind
  case edgeIds =>
    exact h.edgeIds
  case atRest =>
    intro slot present hpresent
    rw [arena_addNode, Arena.node?_insert_of_full full] at hpresent
    split at hpresent
    · cases hpresent
      rfl
    · exact h.atRest slot present hpresent

omit [Scalar α] in
theorem touches_resolve {layout : Layout α} {element : Element} {slot : Nat}
    (h : (layout.resolve element).touches slot = true) :
    exists id, layout.index.slot? id = some slot := by
  rw [Edge.touches_iff] at h
  cases h with
  | inl hsource =>
      rcases Option.bind_eq_some_iff.mp hsource with ⟨raw, _, hfound⟩
      exact ⟨⟨raw⟩, hfound⟩
  | inr htarget =>
      rcases Option.bind_eq_some_iff.mp htarget with ⟨raw, _, hfound⟩
      exact ⟨⟨raw⟩, hfound⟩

theorem coherent_addEdge {layout : Layout α} {element : Element}
    (h : layout.Coherent) (hkind : element.isEdge = true) :
    (layout.addEdge (layout.resolve element)).Coherent := by
  let edge := layout.resolve element
  have hedges : (layout.addEdge edge).edges.toList = layout.edges.toList ++ [edge] :=
    Array.toList_push
  have hholds : forall slot id,
      (layout.addEdge edge).arena.Holds slot id <-> layout.arena.Holds slot id := by
    intro slot id
    rw [arena_addEdge]
    rfl
  have hslotOf : forall id,
      (layout.addEdge edge).arena.slotOf? id = layout.arena.slotOf? id := fun id =>
    Arena.slotOf?_congr fun slot => hholds slot id
  constructor
  case lookup =>
    intro id
    rw [hslotOf]
    exact h.lookup id
  case ends =>
    intro other hother slot htouches
    rw [hedges, List.mem_append, List.mem_singleton] at hother
    rcases hother with hold | rfl
    · rcases h.ends other hold slot htouches with ⟨id, hid⟩
      exact ⟨id, (hslotOf id).trans hid⟩
    · rcases touches_resolve htouches with ⟨id, hid⟩
      refine ⟨id, ?_⟩
      rw [hslotOf, ← h.lookup]
      exact hid
  case links =>
    rw [arena_addEdge, hedges, linksOf_append_singleton, Array.length_toList, ← h.links]
  case nodeIds =>
    intro slot id hid
    exact h.nodeIds slot id ((hholds slot id).mp hid)
  case edgeIds =>
    intro other hother
    rw [hedges, List.mem_append, List.mem_singleton] at hother
    rcases hother with hold | rfl
    · exact h.edgeIds other hold
    · exact of_decide_eq_true hkind
  case atRest =>
    intro slot node hnode
    rw [arena_addEdge] at hnode
    exact h.atRest slot node hnode

theorem coherent_load (layout : Layout α) (graph : Graph) :
    (layout.load graph).1.Coherent := by
  apply load_induction (P := fun _ loaded => loaded.Coherent)
  · exact coherent_new _ _
  · intro _ loaded element full hkind h
    exact coherent_addNode h full hkind
  · intro _ loaded element hkind h
    exact coherent_addEdge h hkind

/-!
# Simulation
-/

theorem coherent_simulate {layout : Layout α} (h : layout.Coherent) :
    layout.simulate.1.Coherent := by
  have hnodes := layout.sameNodes_simulate
  constructor
  case lookup =>
    intro id
    rw [hnodes.slotOf?]
    exact h.lookup id
  case ends =>
    intro edge hedge slot htouches
    rcases h.ends edge hedge slot htouches with ⟨id, hid⟩
    exact ⟨id, (hnodes.slotOf? id).trans hid⟩
  case links =>
    rw [hnodes.links]
    exact h.links
  case nodeIds =>
    intro slot id hholds
    exact h.nodeIds slot id ((hnodes.holds_iff slot id).mp hholds)
  case edgeIds =>
    exact h.edgeIds
  case atRest =>
    exact layout.atRest_simulate

/-!
# Removal
-/

omit [Scalar α] in
theorem fst_remove_of_slot? {layout : Layout α} {id : NodeId} {slot : Nat}
    (h : layout.index.slot? id = some slot) :
    (layout.remove id).1 =
      { layout with
        arena := layout.arena.remove slot
        index := layout.index.replace id ((layout.arena.remove slot).slotOf? id)
        edges := layout.edges.map (Edge.detach slot) } := by
  unfold remove nodeIndex?
  rw [h]

omit [Scalar α] in
theorem remove_of_slot?_eq_none {layout : Layout α} {id : NodeId}
    (h : layout.index.slot? id = none) : layout.remove id = (layout, false) := by
  unfold remove nodeIndex?
  rw [h]

theorem coherent_remove {layout : Layout α} (h : layout.Coherent) (id : NodeId) :
    (layout.remove id).1.Coherent := by
  cases hslot : layout.index.slot? id with
  | none =>
      rw [remove_of_slot?_eq_none hslot]
      exact h
  | some slot =>
      have hfound : layout.arena.slotOf? id = some slot := (h.lookup id).symm.trans hslot
      have hholds := Arena.holds_of_slotOf? hfound
      have hedges : forall edge, edge ∈ (layout.edges.map (Edge.detach slot)).toList ->
          exists before, before ∈ layout.edges.toList ∧ before.detach slot = edge := by
        intro edge hedge
        rw [Array.toList_map] at hedge
        exact List.mem_map.mp hedge
      rw [fst_remove_of_slot? hslot]
      constructor
      case lookup =>
        intro other
        change (layout.index.replace id _).slot? other = _
        rw [SlotIndex.slot?_replace]
        by_cases hother : other = id
        · rw [if_pos hother, hother]
        · rw [if_neg hother, Arena.slotOf?_remove_of_ne hholds hother]
          exact h.lookup other
      case ends =>
        intro edge hedge s htouches
        rcases hedges edge hedge with ⟨before, hbefore, rfl⟩
        rcases Edge.touches_detach_iff.mp htouches with ⟨htouched, hs⟩
        rcases h.ends before hbefore s htouched with ⟨other, hother⟩
        have hne : other ≠ id := by
          intro heq
          rw [heq, hfound] at hother
          exact hs (Option.some.inj hother).symm
        exact ⟨other, (Arena.slotOf?_remove_of_ne hholds hne).trans hother⟩
      case links =>
        change (layout.arena.remove slot).links =
          linksOf (layout.edges.map (Edge.detach slot)).toList
        rw [Array.toList_map, linksOf_map_detach, ← h.links]
        exact Arena.links_remove_of_holds hholds
      case nodeIds =>
        intro s other hother
        exact h.nodeIds s other (Arena.holds_remove.mp hother).2
      case edgeIds =>
        intro edge hedge
        rcases hedges edge hedge with ⟨before, hbefore, rfl⟩
        exact h.edgeIds before hbefore
      case atRest =>
        intro s node hnode
        change (layout.arena.remove slot).node? s = some node at hnode
        rw [Arena.node?_remove] at hnode
        split at hnode
        · cases hnode
        · exact h.atRest s node hnode

/-!
# Any list of requests
-/

theorem coherent_perform {layout : Layout α} (h : layout.Coherent) (request : Request) :
    (layout.perform request).Coherent := by
  cases request with
  | load graph =>
      exact coherent_load layout graph
  | simulate =>
      exact coherent_simulate h
  | remove id =>
      exact coherent_remove h id
  | clear =>
      exact coherent_new layout.dimensions layout.config

theorem coherent_performAll {layout : Layout α} (h : layout.Coherent)
    (requests : List Request) : (layout.performAll requests).Coherent :=
  performAll_induction (P := Coherent) (fun _ request hbefore => coherent_perform hbefore request)
    h requests

structure Consistent (layout : Layout α) : Prop where
  found : forall id slot, layout.nodeIndex? id = some slot <->
    IsLeast {s | exists node, layout.node? s = some node ∧ node.id = id} slot
  notFound : forall id, layout.nodeIndex? id = none <->
    forall slot node, layout.node? slot = some node -> node.id ≠ id
  /-- Every end of an edge is an occupied slot, the one that the id of its node finds. -/
  ends : forall edge, edge ∈ layout.edges -> forall slot,
    edge.source = some slot ∨ edge.target = some slot ->
      exists node, layout.node? slot = some node ∧ layout.nodeIndex? node.id = some slot
  /-- There is one link for each edge with both ends, and no other link. -/
  links : forall link, layout.arena.links.count link =
    if (layout.edges[link.edge]?).bind Edge.endpoints? = some (link.source, link.target) then 1
    else 0
  nodes : forall slot node, layout.node? slot = some node ->
    0 ≤ node.id.raw ∧ node.velocity = Vec3.zero
  edges : forall edge, edge ∈ layout.edges -> edge.id.raw < 0

theorem Coherent.consistent {layout : Layout α} (h : layout.Coherent) :
    layout.Consistent where
  found id slot := by
    unfold nodeIndex?
    rw [h.lookup]
    exact Arena.slotOf?_eq_some_iff
  notFound id := by
    unfold nodeIndex?
    rw [h.lookup, Arena.slotOf?_eq_none_iff]
    constructor
    · intro hnone slot node hnode hid
      exact hnone slot ⟨node, hnode, hid⟩
    · intro hnone slot hholds
      rcases hholds with ⟨node, hnode, hid⟩
      exact hnone slot node hnode hid
  ends edge hedge slot hend := by
    rcases h.ends edge hedge.val slot (Edge.touches_iff.mpr hend) with ⟨id, hid⟩
    rcases Arena.holds_of_slotOf? hid with ⟨node, hnode, rfl⟩
    exact ⟨node, hnode, (h.lookup node.id).trans hid⟩
  links link := by
    rw [h.links, count_linksOf, Array.getElem?_toList]
  nodes slot node hnode :=
    ⟨h.nodeIds slot node.id ⟨node, hnode, rfl⟩, h.atRest slot node hnode⟩
  edges edge hedge := h.edgeIds edge hedge.val

theorem performAll_new_consistent (dimensions : Dimensions) (config : Config α)
    (requests : List Request) :
    ((new dimensions config).performAll requests).Consistent :=
  (coherent_performAll (coherent_new dimensions config) requests).consistent

end Layout
end GraphLayout
