import GraphLayout.Layout.Load
import GraphLayout.Layout.Remove
import GraphLayout.Layout.Simulate
import GraphLayout.Proofs.Arena.Changes
import GraphLayout.Proofs.Links

/-!
# Requests

A layout goes through the states that a caller asks for: graphs are loaded and
dropped, simulations run, nodes removed. A property that every request preserves
holds after any list of requests; for a load, it is enough to look at one element.
-/

namespace GraphLayout

inductive Request where
  | load (graph : Graph)
  | simulate
  | remove (id : NodeId)
  | clear
  deriving DecidableEq

namespace Layout

variable {α : Type} [Scalar α]

def perform (layout : Layout α) : Request -> Layout α
  | .load graph => (layout.load graph).1
  | .simulate => layout.simulate.1
  | .remove id => (layout.remove id).1
  | .clear => layout.clear

def performAll (layout : Layout α) (requests : List Request) : Layout α :=
  requests.foldl perform layout

theorem performAll_append (layout : Layout α) (first second : List Request) :
    layout.performAll (first ++ second) = (layout.performAll first).performAll second :=
  List.foldl_append

theorem performAll_singleton (layout : Layout α) (request : Request) :
    layout.performAll [request] = layout.perform request :=
  rfl

theorem performAll_induction {P : Layout α -> Prop}
    (hstep : forall layout request, P layout -> P (layout.perform request))
    {layout : Layout α} (h : P layout) (requests : List Request) :
    P (layout.performAll requests) := by
  induction requests generalizing layout with
  | nil =>
      exact h
  | cons request rest ih =>
      exact ih (hstep layout request h)

/-!
# Elements of a graph
-/

def newNode (layout : Layout α) (element : Element) : Node α :=
  Node.atRest ⟨element.id⟩ (layout.spiral.next layout.dimensions).1 element.values

theorem arena_addNode (layout : Layout α) (element : Element) :
    (layout.addNode element).arena = (layout.arena.insert (layout.newNode element)).1 :=
  rfl

omit [Scalar α] in
theorem arena_addEdge (layout : Layout α) (edge : Edge) :
    (layout.addEdge edge).arena =
      { layout.arena with
        links := (edge.link? layout.edges.size).toList ++ layout.arena.links } := by
  unfold addEdge Edge.link?
  cases edge.endpoints? with
  | none =>
      rfl
  | some ends =>
      rfl

def addElement (layout : Layout α) (element : Element) : Layout α :=
  (add (layout, #[]) element).1

theorem addElement_of_isEdge (layout : Layout α) {element : Element}
    (h : element.isEdge = true) :
    layout.addElement element = layout.addEdge (layout.resolve element) := by
  unfold addElement add
  simp [h]

theorem addElement_of_not_isEdge (layout : Layout α) {element : Element}
    (h : element.isEdge = false) : layout.addElement element = layout.addNode element := by
  unfold addElement add
  simp [h]

theorem fst_add (state : Layout α × Log α) (element : Element) :
    (add state element).1 = state.1.addElement element := by
  unfold addElement add
  cases element.isEdge with
  | true =>
      rfl
  | false =>
      rfl

theorem fst_foldl_add (state : Layout α × Log α) (elements : List Element) :
    (elements.foldl add state).1 = elements.foldl addElement state.1 := by
  induction elements generalizing state with
  | nil =>
      rfl
  | cons element rest ih =>
      rw [List.foldl_cons, ih, fst_add, List.foldl_cons]

theorem fst_load (layout : Layout α) (graph : Graph) :
    (layout.load graph).1 = graph.elements.foldl addElement layout.clear :=
  fst_foldl_add (layout.clear, #[]) graph.elements

/-- Follows a load element by element, with the elements that were taken up so far. No
slot is vacant on the way, so that every node gets a new one. -/
theorem load_induction {P : List Element -> Layout α -> Prop} (layout : Layout α)
    (graph : Graph) (hclear : P [] layout.clear)
    (hnode : forall elements layout element, layout.arena.vacant = [] ->
      element.isEdge = false -> P elements layout ->
      P (elements ++ [element]) (layout.addNode element))
    (hedge : forall elements layout element, element.isEdge = true -> P elements layout ->
      P (elements ++ [element]) (layout.addEdge (layout.resolve element))) :
    P graph.elements (layout.load graph).1 := by
  have hrest : forall (rest taken : List Element) (layout : Layout α),
      layout.arena.vacant = [] -> P taken layout ->
      P (taken ++ rest) (rest.foldl addElement layout) := by
    intro rest
    induction rest with
    | nil =>
        intro taken layout _ h
        rw [List.append_nil]
        exact h
    | cons element rest ih =>
        intro taken layout full h
        rw [List.foldl_cons, List.append_cons]
        cases hkind : element.isEdge with
        | false =>
            rw [addElement_of_not_isEdge layout hkind]
            apply ih
            · rw [arena_addNode, Arena.insert_of_full full]
              exact full
            · exact hnode taken layout element full hkind h
        | true =>
            rw [addElement_of_isEdge layout hkind]
            apply ih
            · rw [arena_addEdge]
              exact full
            · exact hedge taken layout element hkind h
  rw [fst_load]
  exact hrest graph.elements [] layout.clear rfl hclear

end Layout
end GraphLayout
