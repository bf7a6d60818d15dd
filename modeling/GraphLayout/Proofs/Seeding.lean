import GraphLayout.Proofs.LoadedGraph
import GraphLayout.Proofs.Topology

/-!
# Seeds and reports of a load

A load takes up nodes and edges in one pass. Seen from its end, the nodes stand at the points
that so many calls for the next point of a new spiral give, one after the other, and the log is
a list of reports, one for each edge with an absent end, with the counts behind them.
-/

namespace GraphLayout

/-!
# Calls for the next point
-/

namespace Spiral

variable {α : Type} [Scalar α]

/-- The points that the calls give, and the spiral after them. The dimensions belong to a call,
and may change from one to the next. -/
def nexts : List Dimensions -> Spiral α -> List (Vec3 α) × Spiral α
  | [], spiral => ([], spiral)
  | dimensions :: rest, spiral =>
      let (point, advanced) := spiral.next dimensions
      let (points, last) := nexts rest advanced
      (point :: points, last)

theorem nexts_cons (dimensions : Dimensions) (rest : List Dimensions) (spiral : Spiral α) :
    nexts (dimensions :: rest) spiral =
      (spiral.advance.point dimensions :: (nexts rest spiral.advance).1,
        (nexts rest spiral.advance).2) :=
  rfl

theorem nexts_after (calls : List Dimensions) (n : Nat) :
    nexts calls (after n : Spiral α) =
      ((calls.zipIdx n).map fun call => (after (call.2 + 1)).point call.1,
        after (n + calls.length)) := by
  induction calls generalizing n with
  | nil =>
      rfl
  | cons dimensions rest ih =>
      have hrest : nexts rest (after n : Spiral α).advance = _ := ih (n + 1)
      rw [nexts_cons, hrest, List.zipIdx_cons, List.map_cons, List.length_cons,
        Nat.add_right_comm n 1, Nat.add_assoc n]
      rfl

theorem fst_nexts_replicate (dimensions : Dimensions) (n : Nat) :
    (nexts (List.replicate n dimensions) (start : Spiral α)).1 =
      (List.range n).map fun k => (after (k + 1)).point dimensions := by
  have hcalls : nexts (List.replicate n dimensions) (start : Spiral α) = _ :=
    nexts_after (List.replicate n dimensions) 0
  rw [hcalls]
  apply List.ext_getElem
  · simp
  · intro k _ _
    simp

end Spiral

/-!
# Reports of edges
-/

section Reports

variable {α : Type}

def Edge.report? (edge : Edge) (element : Element) : Option (Event α) :=
  if edge.isDegenerate then some (.degenerateEdge edge.id element.source element.target)
  else none

def reports (edges : List Edge) (elements : List Element) : List (Event α) :=
  (edges.zip elements).filterMap fun entry => entry.1.report? entry.2

variable {edges : List Edge} {elements : List Element}

theorem reports_append_singleton (h : edges.length = elements.length) (edge : Edge)
    (element : Element) :
    (reports (edges ++ [edge]) (elements ++ [element]) : List (Event α)) =
      reports edges elements ++ (edge.report? element).toList := by
  unfold reports
  rw [List.zip_append h, List.filterMap_append]
  rfl

theorem length_reports (h : edges.length = elements.length) :
    (reports edges elements : List (Event α)).length = edges.countP Edge.isDegenerate := by
  have hedges : (edges.zip elements).map Prod.fst = edges := List.map_fst_zip (Nat.le_of_eq h)
  conv =>
    rhs
    rw [← hedges]
  unfold reports
  rw [List.length_filterMap_eq_countP, List.countP_map]
  apply List.countP_congr
  intro entry _
  unfold Edge.report?
  cases hdegenerate : entry.1.isDegenerate <;> simp [hdegenerate]

theorem level_reports {event : Event α} (h : event ∈ reports edges elements) :
    event.level = .trace := by
  rcases List.mem_filterMap.mp h with ⟨entry, _, hreport⟩
  unfold Edge.report? at hreport
  split at hreport
  · cases hreport
    rfl
  · cases hreport

end Reports

theorem map_fst_edgeElements (elements : List Element) :
    (edgeElements elements).map Prod.fst = elements.filter Element.isEdge := by
  unfold edgeElements
  rw [List.map_map]
  conv =>
    rhs
    rw [← List.zipIdx_map_fst 0 elements, List.filter_map]
  rfl

namespace Layout

variable {α : Type} [Scalar α]

/-!
# The edges of a loaded graph
-/

theorem map_id_edges_load (layout : Layout α) (graph : Graph) :
    (layout.load graph).1.edges.toList.map Edge.id =
      (graph.elements.filter Element.isEdge).map fun element => ⟨element.id⟩ := by
  rw [(shows_load layout graph).edges, ← map_fst_edgeElements]
  unfold remainingEdges
  rw [List.map_map, List.map_map]
  rfl

theorem length_edges_load (layout : Layout α) (graph : Graph) :
    (layout.load graph).1.edges.toList.length = (graph.elements.filter Element.isEdge).length := by
  have hids := congrArg List.length (layout.map_id_edges_load graph)
  rw [List.length_map, List.length_map] at hids
  exact hids

/-!
# The log
-/

theorem toList_snd_add (state : Layout α × Log α) (element : Element) :
    (add state element).2.toList = state.2.toList ++
      if element.isEdge then ((state.1.resolve element).report? element).toList else [] := by
  unfold add Edge.report?
  cases element.isEdge with
  | false =>
      exact (List.append_nil _).symm
  | true =>
      cases hdegenerate : (state.1.resolve element).isDegenerate with
      | false =>
          simp [hdegenerate]
      | true =>
          simp [hdegenerate]

/-- The induction takes up the elements from the front, so that an edge is resolved in the layout
that the elements before it have led to. -/
theorem toList_snd_foldl_add (layout : Layout α) (elements : List Element) :
    (elements.foldl add (layout.clear, #[])).2.toList =
      reports (elements.foldl addElement layout.clear).edges.toList
        (elements.filter Element.isEdge) := by
  induction elements using List.reverseRecOn with
  | nil =>
      rfl
  | append_singleton earlier element ih =>
      have hlength := layout.length_edges_load ⟨earlier⟩
      rw [fst_load] at hlength
      rw [List.foldl_append, List.foldl_append, List.filter_append, List.foldl_cons,
        List.foldl_cons, List.foldl_nil, List.foldl_nil, toList_snd_add, ih, fst_foldl_add]
      cases hkind : element.isEdge with
      | false =>
          rw [addElement_of_not_isEdge _ hkind, List.filter_cons_of_neg (by simp [hkind]),
            List.filter_nil, List.append_nil]
          exact List.append_nil _
      | true =>
          rw [addElement_of_isEdge _ hkind, List.filter_cons_of_pos hkind, List.filter_nil,
            if_pos rfl, ← reports_append_singleton hlength]
          congr 1
          exact Array.toList_push.symm

theorem toList_snd_load (layout : Layout α) (graph : Graph) :
    let loaded := (layout.load graph).1
    let told : List (Event α) :=
      reports loaded.edges.toList (graph.elements.filter Element.isEdge)
    (layout.load graph).2.toList =
      told ++ [.loaded loaded.nodeCount loaded.edgeCount told.length] := by
  intro loaded told
  have hlog : (layout.load graph).2.toList =
      (graph.elements.foldl add (layout.clear, #[])).2.toList ++
        [.loaded loaded.nodeCount loaded.edgeCount loaded.degenerateCount] :=
    Array.toList_push
  have hcount : loaded.degenerateCount = told.length := by
    rw [length_reports (layout.length_edges_load graph), Array.countP_toList]
    rfl
  have hedges : loaded = graph.elements.foldl addElement layout.clear := layout.fst_load graph
  rw [hlog, toList_snd_foldl_add, ← hedges, hcount]

/-!
# Counts and places
-/

theorem nodeCount_load (layout : Layout α) (graph : Graph) :
    (layout.load graph).1.nodeCount = graph.nodeCount := by
  have hsize := (loading_load layout graph).size
  rw [← (seeded_load layout graph).size, hsize]
  unfold nodeElements Graph.nodeCount
  rw [List.length_zipIdx, List.countP_eq_length_filter]

theorem edgeCount_load (layout : Layout α) (graph : Graph) :
    (layout.load graph).1.edgeCount = graph.edgeCount := by
  unfold Graph.edgeCount edgeCount
  rw [List.countP_eq_length_filter, ← Array.length_toList, length_edges_load]

theorem Seeded.nodeBound {origin layout : Layout α} (h : Seeded origin layout) :
    layout.nodeBound = layout.nodeCount := by
  apply Nat.le_antisymm
  · apply Arena.bound_le_iff.mpr
    intro slot hslot
    have hvacant := h.bodies slot
    rw [h.size, if_neg (Nat.not_lt_of_le hslot)] at hvacant
    exact Option.map_eq_none_iff.mp hvacant
  · change layout.arena.count ≤ layout.arena.bound
    rw [Arena.count_eq_length_presentSlots, Arena.presentSlots_eq_filter_range]
    exact (List.length_filter_le _ _).trans (Nat.le_of_eq List.length_range)

theorem Seeded.map_body_nodes {origin layout : Layout α} (h : Seeded origin layout) :
    layout.nodes.map Node.body =
      (Spiral.nexts (List.replicate layout.nodeCount origin.dimensions) Spiral.start).1.map
        fun point => (point, Vec3.zero) := by
  change layout.arena.nodes.map Node.body = _
  rw [Arena.nodes_eq_filterMap_presentSlots, h.presentSlots, h.size, Spiral.fst_nexts_replicate,
    List.map_map, List.map_filterMap, ← List.filterMap_eq_map]
  apply List.filterMap_congr
  intro slot hslot
  rw [h.bodies, h.size, if_pos (List.mem_range.mp hslot)]
  rfl

theorem load_seeds_and_reports (layout : Layout α) (graph : Graph) :
    let loaded := (layout.load graph).1
    let edgeElements := graph.elements.filter Element.isEdge
    let told : List (Event α) := reports loaded.edges.toList edgeElements
    loaded.nodeCount = graph.nodeCount ∧
      loaded.edgeCount = graph.edgeCount ∧
      loaded.nodeBound = loaded.nodeCount ∧
      loaded.iterations = 0 ∧
      loaded.nodes.map Node.body =
        (Spiral.nexts (List.replicate graph.nodeCount layout.dimensions) Spiral.start).1.map
          (fun point => (point, Vec3.zero)) ∧
      loaded.edges.toList.map Edge.id = edgeElements.map (fun element => ⟨element.id⟩) ∧
      (layout.load graph).2.toList =
        told ++ [.loaded loaded.nodeCount loaded.edgeCount told.length] ∧
      (layout.load graph).2.toList.map Event.level =
        List.replicate told.length Level.trace ++ [Level.debug] := by
  intro loaded edgeElements told
  have hseeded := seeded_load layout graph
  have hlog := layout.toList_snd_load graph
  have hplaces := hseeded.map_body_nodes
  rw [layout.nodeCount_load graph] at hplaces
  have hlevels : told.map Event.level = List.replicate told.length Level.trace := by
    rw [List.eq_replicate_iff, List.length_map]
    refine ⟨rfl, ?_⟩
    intro level hlevel
    rcases List.mem_map.mp hlevel with ⟨event, hevent, rfl⟩
    exact level_reports hevent
  refine ⟨layout.nodeCount_load graph, layout.edgeCount_load graph, hseeded.nodeBound,
    hseeded.iterations, hplaces, layout.map_id_edges_load graph, hlog, ?_⟩
  rw [hlog, List.map_append, hlevels]
  rfl

example :
    ((default : Layout Float).load
      ⟨[.edge (-1) 5 6 .empty, .node 5 .empty, .node 6 .empty, .edge (-2) 6 5 .empty]⟩).2 =
        #[.degenerateEdge ⟨-1⟩ (some 5) (some 6), .loaded 2 2 1] := by
  decide

end Layout
end GraphLayout
