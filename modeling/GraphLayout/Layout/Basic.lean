import GraphLayout.Bounds
import GraphLayout.Config
import GraphLayout.Edge
import GraphLayout.SlotIndex
import GraphLayout.Spiral

/-!
# Layouts

A layout holds one graph at a time: its nodes in an arena, its edges in the order
in which they were loaded, and an index from node ids to slots.
-/

namespace GraphLayout

structure Layout (α : Type) where
  config : Config α
  dimensions : Dimensions
  arena : Arena α
  index : SlotIndex
  edges : Array Edge
  spiral : Spiral α
  iterations : UInt32

namespace Layout

variable {α : Type}

def new [Scalar α] (dimensions : Dimensions) (config : Config α) : Layout α where
  config := config
  dimensions := dimensions
  arena := Arena.empty
  index := SlotIndex.empty
  edges := #[]
  spiral := Spiral.start
  iterations := 0

def default [Scalar α] : Layout α :=
  new Dimensions.default Config.default

instance [Scalar α] : Inhabited (Layout α) where
  default := default

def clear [Scalar α] (layout : Layout α) : Layout α :=
  { layout with
    arena := Arena.empty
    index := SlotIndex.empty
    edges := #[]
    spiral := Spiral.start
    iterations := 0 }

/-!
# Counts
-/

def nodeCount (layout : Layout α) : Nat :=
  layout.arena.count

def edgeCount (layout : Layout α) : Nat :=
  layout.edges.size

def nodeBound (layout : Layout α) : Nat :=
  layout.arena.bound

/-!
# Nodes and edges
-/

def nodes (layout : Layout α) : List (Node α) :=
  layout.arena.nodes

def nodeIndex? (layout : Layout α) (id : NodeId) : Option Nat :=
  layout.index.slot? id

def node? (layout : Layout α) (slot : Nat) : Option (Node α) :=
  layout.arena.node? slot

def findNode? (layout : Layout α) (id : NodeId) : Option (Node α) :=
  (layout.nodeIndex? id).bind layout.node?

def edgeEndpoints (layout : Layout α) (edge : Edge) : Option (Node α) × Option (Node α) :=
  (edge.source.bind layout.node?, edge.target.bind layout.node?)

/-!
# Geometry
-/

def positions (layout : Layout α) : List α :=
  layout.arena.positions.flatMap Vec3.toList

def bounds? [Scalar α] (layout : Layout α) : Option (BoundingBox α) :=
  layout.arena.bounds?

end Layout
end GraphLayout
