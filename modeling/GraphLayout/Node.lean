import GraphLayout.Attributes
import GraphLayout.Vec3

/-!
# Nodes

A node is a body of the layout: where it is, the velocity that one step has
added up, and the attributes of the element it came from.
-/

namespace GraphLayout

structure NodeId where
  raw : Int64
  deriving DecidableEq, Hashable, Repr

namespace NodeId

def display (id : NodeId) : String :=
  "Node(" ++ id.raw.toInt.repr ++ ")"

instance : LT NodeId where
  lt a b := a.raw < b.raw

instance (a b : NodeId) : Decidable (a < b) :=
  inferInstanceAs (Decidable (a.raw < b.raw))

end NodeId

structure Node (α : Type) where
  id : NodeId
  position : Vec3 α
  velocity : Vec3 α
  attributes : Attributes

namespace Node

variable {α : Type} [Scalar α]

def atRest (id : NodeId) (position : Vec3 α) (attributes : Attributes) : Node α where
  id := id
  position := position
  velocity := Vec3.zero
  attributes := attributes

omit [Scalar α] in
def attribute? (node : Node α) (key : String) : Option String :=
  node.attributes.get? key

def speed (node : Node α) : α :=
  node.velocity.length

def advance (damper : α) (node : Node α) : Node α :=
  { node with
    position := node.position + node.velocity * damper
    velocity := Vec3.zero }

end Node
end GraphLayout
