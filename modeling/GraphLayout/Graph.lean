import GraphLayout.Attributes

/-!
# Graphs

A graph is a flat list of elements. The sign of an element's id tells what it
is: a negative id belongs to an edge, every other one to a node.
-/

namespace GraphLayout

structure Element where
  id : Int64
  values : Attributes
  source : Option Int64
  target : Option Int64
  deriving DecidableEq

namespace Element

def node (id : Int64) (values : Attributes) : Element :=
  ⟨id, values, none, none⟩

def edge (id source target : Int64) (values : Attributes) : Element :=
  ⟨id, values, some source, some target⟩

def isEdge (element : Element) : Bool :=
  element.id < 0

end Element

structure Graph where
  elements : List Element
  deriving DecidableEq

namespace Graph

def nodeCount (graph : Graph) : Nat :=
  graph.elements.countP fun element => !element.isEdge

def edgeCount (graph : Graph) : Nat :=
  graph.elements.countP Element.isEdge

end Graph
end GraphLayout
