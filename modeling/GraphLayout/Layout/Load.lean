import GraphLayout.Event
import GraphLayout.Graph
import GraphLayout.Layout.Basic

/-!
# Loading

The elements of a graph are taken in order. Each node starts at the next point of
the spiral. An end of an edge is found among the nodes loaded before the edge; an
end that is not found there is absent.
-/

namespace GraphLayout
namespace Layout

variable {α : Type} [Scalar α]

def addNode (layout : Layout α) (element : Element) : Layout α :=
  let id : NodeId := ⟨element.id⟩
  let (position, spiral) := layout.spiral.next layout.dimensions
  let (arena, slot) := layout.arena.insert (Node.atRest id position element.values)
  { layout with
    arena := arena
    index := layout.index.enter id slot
    spiral := spiral }

omit [Scalar α] in
/-- The edge of an element, with the ends that are found now. -/
def resolve (layout : Layout α) (element : Element) : Edge where
  id := ⟨element.id⟩
  source := element.source.bind fun raw => layout.nodeIndex? ⟨raw⟩
  target := element.target.bind fun raw => layout.nodeIndex? ⟨raw⟩
  attributes := element.values

omit [Scalar α] in
def addEdge (layout : Layout α) (edge : Edge) : Layout α :=
  { layout with
    arena :=
      match edge.endpoints? with
      | some (source, target) => layout.arena.connect ⟨source, target, layout.edges.size⟩
      | none => layout.arena
    edges := layout.edges.push edge }

def add (state : Layout α × Log α) (element : Element) : Layout α × Log α :=
  let (layout, log) := state
  if element.isEdge then
    let edge := layout.resolve element
    let log :=
      if edge.isDegenerate then
        log.push (.degenerateEdge edge.id element.source element.target)
      else log
    (layout.addEdge edge, log)
  else
    (layout.addNode element, log)

omit [Scalar α] in
def degenerateCount (layout : Layout α) : Nat :=
  layout.edges.countP Edge.isDegenerate

def load (layout : Layout α) (graph : Graph) : Layout α × Log α :=
  let (loaded, log) := graph.elements.foldl add (layout.clear, #[])
  (loaded, log.push (.loaded loaded.nodeCount loaded.edgeCount loaded.degenerateCount))

end Layout
end GraphLayout
