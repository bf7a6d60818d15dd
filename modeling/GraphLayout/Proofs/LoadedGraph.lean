import GraphLayout.Proofs.Consistency
import GraphLayout.Proofs.Remaining
import Mathlib.Data.List.Forall2

/-!
# A loaded graph over a whole run

From its loading on, a graph is simulated and loses nodes in any order. All that a
layout then shows of the graph, the places of the nodes apart, is what remains of
its elements.
-/

namespace GraphLayout

def Request.keepsGraph : Request -> Bool
  | .simulate => true
  | .remove _ => true
  | .load _ => false
  | .clear => false

def removals (requests : List Request) (id : NodeId) : Nat :=
  requests.count (.remove id)

theorem removals_append_remove (requests : List Request) (id : NodeId) :
    removals (requests ++ [.remove id]) = increase (removals requests) id := by
  funext other
  unfold removals increase
  rw [List.count_append]
  by_cases hother : other = id
  · rw [hother, Function.update_self, List.count_singleton_self]
  · rw [Function.update_of_ne hother, List.count_singleton, if_neg]
    · rfl
    · simpa using Ne.symm hother

theorem removals_append_simulate (requests : List Request) :
    removals (requests ++ [.simulate]) = removals requests := by
  funext other
  unfold removals
  rw [List.count_append]
  rfl

namespace Layout

variable {α : Type}

/-!
# One request
-/

/-- The occupied slots of a layout and its edges are what remains of the elements. -/
structure Shows (elements : List Element) (count : NodeId -> Nat) (layout : Layout α) :
    Prop where
  nodes : (layout.arena.occupied.map fun entry => (entry.2.label, entry.1)) =
    (remainingNodes elements count).map fun entry => (entry.1.label, entry.2)
  edges : layout.edges.toList = remainingEdges elements count

variable [Scalar α]

theorem Shows.nodeIndex? {elements : List Element} {count : NodeId -> Nat}
    {layout : Layout α} (h : Shows elements count layout) (hcoherent : layout.Coherent)
    (id : NodeId) : layout.nodeIndex? id = firstNode? elements count id := by
  have hfind := congrArg
    (fun entries => (entries.find? fun entry => entry.1.1 == id).map Prod.snd) h.nodes
  simp only [List.find?_map, Option.map_map] at hfind
  change layout.index.slot? id = _
  rw [hcoherent.lookup, Arena.slotOf?_eq_find?_occupied]
  exact hfind

/-- What holds while a graph is loaded, of the elements that were taken up. -/
structure Loading (elements : List Element) (layout : Layout α) : Prop where
  coherent : layout.Coherent
  size : layout.arena.slots.size = (nodeElements elements).length
  shown : Shows elements (fun _ => 0) layout

theorem Loading.addNode {elements : List Element} {layout : Layout α} {element : Element}
    (h : Loading elements layout) (full : layout.arena.vacant = [])
    (hkind : element.isEdge = false) :
    Loading (elements ++ [element]) (layout.addNode element) := by
  constructor
  case coherent =>
    exact coherent_addNode h.coherent full hkind
  case size =>
    rw [arena_addNode, Arena.size_insert_of_full full, nodeElements_append_node elements hkind,
      List.length_append, h.size]
    rfl
  case shown =>
    constructor
    case nodes =>
      rw [arena_addNode, Arena.occupied_insert_of_full full, List.map_append, h.shown.nodes,
        h.size]
      unfold remainingNodes
      rw [dropFirst_zero, dropFirst_zero, nodeElements_append_node elements hkind,
        List.map_append]
      rfl
    case edges =>
      change layout.edges.toList = _
      rw [h.shown.edges]
      unfold remainingEdges
      rw [edgeElements_append_singleton, hkind]
      simp

theorem Loading.resolve {elements : List Element} {layout : Layout α}
    (h : Loading elements layout) (element : Element) :
    layout.resolve element = edgeOf (fun _ => 0) element elements := by
  unfold Layout.resolve edgeOf endSlot?
  simp only [h.shown.nodeIndex? h.coherent, if_true]

theorem Loading.addEdge {elements : List Element} {layout : Layout α} {element : Element}
    (h : Loading elements layout) (hkind : element.isEdge = true) :
    Loading (elements ++ [element]) (layout.addEdge (layout.resolve element)) := by
  constructor
  case coherent =>
    exact coherent_addEdge h.coherent hkind
  case size =>
    rw [arena_addEdge, nodeElements_append_edge elements hkind]
    exact h.size
  case shown =>
    constructor
    case nodes =>
      rw [arena_addEdge, remainingNodes, nodeElements_append_edge elements hkind]
      exact h.shown.nodes
    case edges =>
      change (layout.edges.push (layout.resolve element)).toList = _
      rw [Array.toList_push, h.shown.edges, h.resolve]
      unfold remainingEdges
      rw [edgeElements_append_singleton, hkind, List.map_append]
      rfl

theorem loading_load (layout : Layout α) (graph : Graph) :
    Loading graph.elements (layout.load graph).1 := by
  apply load_induction layout graph
  · exact ⟨coherent_new _ _, rfl, rfl, rfl⟩
  · intro elements layout element full hkind h
    exact h.addNode full hkind
  · intro elements layout element hkind h
    exact h.addEdge hkind

theorem shows_load (layout : Layout α) (graph : Graph) :
    Shows graph.elements (fun _ => 0) (layout.load graph).1 :=
  (loading_load layout graph).shown

theorem shows_simulate {elements : List Element} {count : NodeId -> Nat} {layout : Layout α}
    (h : Shows elements count layout) : Shows elements count layout.simulate.1 where
  nodes := by
    have hlabels := congrArg (List.map Prod.swap) layout.sameNodes_simulate.occupied_label
    rw [List.map_map, List.map_map] at hlabels
    exact hlabels.trans h.nodes
  edges := h.edges

theorem occupied_remove {layout : Layout α} (h : layout.Coherent) (id : NodeId) :
    (layout.remove id).1.arena.occupied =
      layout.arena.occupied.eraseP fun entry => entry.2.id == id := by
  cases hslot : layout.index.slot? id with
  | none =>
      rw [remove_of_slot?_eq_none hslot]
      exact (Arena.eraseP_occupied_of_slotOf?_eq_none ((h.lookup id).symm.trans hslot)).symm
  | some slot =>
      rw [fst_remove_of_slot? hslot]
      exact Arena.occupied_remove_of_slotOf? ((h.lookup id).symm.trans hslot)

theorem shows_remove {elements : List Element} {count : NodeId -> Nat} {layout : Layout α}
    (h : Shows elements count layout) (hcoherent : layout.Coherent) (id : NodeId) :
    Shows elements (increase count id) (layout.remove id).1 := by
  constructor
  case nodes =>
    have herase := congrArg
      (fun entries => entries.eraseP fun entry => entry.1.1 == id) h.nodes
    simp only [List.eraseP_map] at herase
    rw [occupied_remove hcoherent, remainingNodes, ← eraseP_dropFirst]
    exact herase
  case edges =>
    have hfound := h.nodeIndex? hcoherent id
    have hlist : (layout.remove id).1.edges.toList =
        layout.edges.toList.map fun edge =>
          (firstNode? elements count id).elim edge fun slot => edge.detach slot := by
      cases hslot : firstNode? elements count id with
      | none =>
          rw [remove_of_slot?_eq_none (hfound.trans hslot)]
          exact (List.map_id' _).symm
      | some slot =>
          rw [fst_remove_of_slot? (hfound.trans hslot)]
          exact Array.toList_map
    rw [hlist, h.edges]
    unfold remainingEdges
    rw [List.map_map]
    apply List.map_congr_left
    intro entry hentry
    rcases exists_eq_append_of_mem_edgeElements hentry with ⟨later, hsplit⟩
    exact (edgeOf_increase hsplit count id entry.1).symm

/-!
# A whole run
-/

theorem shows_performAll_load (layout : Layout α) (graph : Graph) {requests : List Request}
    (hkeeps : forall request, request ∈ requests -> request.keepsGraph = true) :
    Shows graph.elements (removals requests)
      ((layout.load graph).1.performAll requests) := by
  induction requests using List.reverseRecOn with
  | nil =>
      exact shows_load layout graph
  | append_singleton earlier request ih =>
      have hearlier := ih fun other hother => hkeeps other (List.mem_append_left _ hother)
      have hlast := hkeeps request (List.mem_append_right _ List.mem_cons_self)
      rw [performAll_append, performAll_singleton]
      cases request with
      | load graph =>
          cases hlast
      | simulate =>
          rw [removals_append_simulate]
          exact shows_simulate hearlier
      | remove id =>
          rw [removals_append_remove]
          exact shows_remove hearlier
            (coherent_performAll (coherent_load layout graph) earlier) id
      | clear =>
          cases hlast

structure EndAccount (earlier : List Element) (count : NodeId -> Nat) (layout : Layout α)
    (raw : Option Int64) (slot? : Option Nat) (node? : Option (Node α)) : Prop where
  present : slot?.isSome = true <->
    exists id : NodeId, raw = some id.raw ∧ count id = 0 ∧
      exists node, node ∈ earlier ∧ node.isEdge = false ∧ node.label.1 = id
  first : forall slot, slot? = some slot -> forall id : NodeId, raw = some id.raw ->
    firstNode? earlier (fun _ => 0) id = some slot
  isSome : node?.isSome = slot?.isSome
  found : node?.isSome = true -> forall id : NodeId, raw = some id.raw ->
    node? = layout.findNode? id

structure EdgeAccount (count : NodeId -> Nat) (layout : Layout α)
    (entry : Element × List Element) (edge : Edge) : Prop where
  id : edge.id = ⟨entry.1.id⟩
  attributes : edge.attributes = entry.1.values
  source : EndAccount entry.2 count layout entry.1.source edge.source
    (layout.edgeEndpoints edge).1
  target : EndAccount entry.2 count layout entry.1.target edge.target
    (layout.edgeEndpoints edge).2

structure Account (graph : Graph) (count : NodeId -> Nat) (layout : Layout α) : Prop where
  /-- The slot of a node is the number of its element among the node elements. -/
  slots : (layout.arena.occupied.map fun entry => (entry.2.label, entry.1)) =
    (remainingNodes graph.elements count).map fun entry => (entry.1.label, entry.2)
  nodes : layout.nodes.map Node.label =
    (remainingNodes graph.elements count).map fun entry => entry.1.label
  found : forall id, layout.findNode? id = layout.nodes.find? fun node => node.id == id
  edges : List.Forall₂ (EdgeAccount count layout) (edgeElements graph.elements)
    layout.edges.toList

section Accounts

variable {graph : Graph} {count : NodeId -> Nat} {layout : Layout α}

theorem Shows.endAccount (h : Shows graph.elements count layout)
    (hcoherent : layout.Coherent) {earlier later : List Element}
    (hsplit : graph.elements = earlier ++ later) (raw : Option Int64) :
    EndAccount earlier count layout raw (endSlot? count earlier raw)
      ((endSlot? count earlier raw).bind layout.node?) := by
  -- the id at an end that is present still finds the node there
  have hfinds : forall slot, endSlot? count earlier raw = some slot ->
      forall id : NodeId, raw = some id.raw ->
        firstNode? earlier (fun _ => 0) id = some slot ∧ layout.nodeIndex? id = some slot := by
    intro slot hslot id hraw
    rcases endSlot?_eq_some_iff.mp hslot with ⟨other, hother, hcount, hfirst⟩
    have hid : other = id := by
      cases other
      cases id
      cases hraw
      cases hother
      rfl
    rw [hid] at hcount hfirst
    refine ⟨hfirst, ?_⟩
    rw [h.nodeIndex? hcoherent, firstNode?_of_zero graph.elements hcount, hsplit]
    exact firstNode?_append hfirst later
  constructor
  case present =>
    exact isSome_endSlot?_iff
  case first =>
    intro slot hslot id hraw
    exact (hfinds slot hslot id hraw).1
  case isSome =>
    cases hslot : endSlot? count earlier raw with
    | none =>
        rfl
    | some slot =>
        rcases endSlot?_eq_some_iff.mp hslot with ⟨id, hraw, _, _⟩
        have hindex := (hfinds slot hslot id hraw).2
        rcases Arena.holds_of_slotOf? ((hcoherent.lookup id).symm.trans hindex) with
          ⟨node, hnode, _⟩
        exact congrArg Option.isSome hnode
  case found =>
    intro hpresent id hraw
    cases hslot : endSlot? count earlier raw with
    | none =>
        rw [hslot] at hpresent
        cases hpresent
    | some slot =>
        unfold findNode?
        rw [(hfinds slot hslot id hraw).2]

theorem Shows.account (h : Shows graph.elements count layout) (hcoherent : layout.Coherent) :
    Account graph count layout := by
  constructor
  case slots =>
    exact h.nodes
  case nodes =>
    have hlabels := congrArg (List.map Prod.fst) h.nodes
    rw [List.map_map, List.map_map] at hlabels
    change layout.arena.nodes.map Node.label = _
    rw [Arena.nodes_eq_map_occupied, List.map_map]
    exact hlabels
  case found =>
    intro id
    unfold findNode? Layout.nodeIndex?
    rw [hcoherent.lookup]
    exact layout.arena.node?_slotOf?_eq_find?_nodes id
  case edges =>
    rw [h.edges, remainingEdges, List.forall₂_map_right_iff, List.forall₂_same]
    intro entry hentry
    rcases exists_eq_append_of_mem_edgeElements hentry with ⟨later, hsplit⟩
    constructor
    case id =>
      rfl
    case attributes =>
      rfl
    case source =>
      exact h.endAccount hcoherent hsplit entry.1.source
    case target =>
      exact h.endAccount hcoherent hsplit entry.1.target

theorem Shows.snd_remove (h : Shows graph.elements count layout)
    (hcoherent : layout.Coherent) (id : NodeId) :
    (layout.remove id).2 = true <->
      exists entry, entry ∈ remainingNodes graph.elements count ∧ entry.1.label.1 = id := by
  rw [← isSome_firstNode?, ← h.nodeIndex? hcoherent]
  cases hslot : layout.nodeIndex? id with
  | none =>
      rw [remove_of_slot?_eq_none hslot]
      simp
  | some slot =>
      rcases Arena.holds_of_slotOf? ((hcoherent.lookup id).symm.trans hslot) with
        ⟨node, hnode, _⟩
      have hremoved : (layout.remove id).2 = (layout.node? slot).isSome := by
        unfold remove
        rw [hslot]
      rw [hremoved, show layout.node? slot = some node from hnode]
      rfl

end Accounts

theorem account_performAll_load (layout : Layout α) (graph : Graph) {requests : List Request}
    (hkeeps : forall request, request ∈ requests -> request.keepsGraph = true) :
    Account graph (removals requests) ((layout.load graph).1.performAll requests) ∧
      forall earlier id later, requests = earlier ++ .remove id :: later ->
        ((((layout.load graph).1.performAll earlier).remove id).2 = true <->
          exists entry, entry ∈ remainingNodes graph.elements (removals earlier) ∧
            entry.1.label.1 = id) := by
  have hcoherent := coherent_performAll (coherent_load layout graph)
  constructor
  · exact (shows_performAll_load layout graph hkeeps).account (hcoherent requests)
  · intro earlier id later hsplit
    have hearlier : forall request, request ∈ earlier -> request.keepsGraph = true := by
      intro request hrequest
      apply hkeeps
      rw [hsplit]
      exact List.mem_append_left _ hrequest
    exact (shows_performAll_load layout graph hearlier).snd_remove (hcoherent earlier) id

/-- The later of two nodes with one id stays when the id is removed once. -/
theorem account_performAll_load_twins :
    let graph : Graph := ⟨[.node 5 .empty, .edge (-1) 5 6 .empty, .node 6 .empty,
      .node 5 (.ofList [("name", "twin")]), .edge (-2) 6 5 .empty]⟩
    let requests : List Request := [.simulate, .remove ⟨5⟩, .simulate]
    let loaded := ((default : Layout Float).load graph).1
    (forall request, request ∈ requests -> request.keepsGraph = true) ∧
      Account graph (removals requests) (loaded.performAll requests) ∧
      (loaded.performAll requests).nodes.map Node.label =
        [(⟨6⟩, .empty), (⟨5⟩, .ofList [("name", "twin")])] ∧
      ((loaded.performAll [.simulate]).remove ⟨5⟩).2 = true := by
  intro graph requests loaded
  have hkeeps : forall request, request ∈ requests -> request.keepsGraph = true := by
    decide
  rcases account_performAll_load (default : Layout Float) graph hkeeps with ⟨haccount, hremoved⟩
  refine ⟨hkeeps, haccount, ?_, ?_⟩
  · rw [haccount.nodes]
    decide
  · apply (hremoved [.simulate] ⟨5⟩ [.simulate] rfl).mpr
    exact ⟨(.node 5 .empty, 0), by decide, rfl⟩

end Layout
end GraphLayout
