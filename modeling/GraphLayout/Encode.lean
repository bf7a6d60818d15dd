import GraphLayout.Bounds
import GraphLayout.Config
import GraphLayout.Json.Value

/-!
# JSON of results

A node shows where it is, and not its velocity.
-/

namespace GraphLayout

open Json (Value)

def Dimensions.name : Dimensions -> String
  | two => "Two"
  | three => "Three"

def Dimensions.toJson (dimensions : Dimensions) : Value :=
  .string dimensions.name

namespace Vec3

def members (v : Vec3 Float) : List (String × Value) :=
  [("x", .ofFloat v.x), ("y", .ofFloat v.y), ("z", .ofFloat v.z)]

def toJson (v : Vec3 Float) : Value :=
  .object v.members

end Vec3

def BoundingBox.toJson (box : BoundingBox Float) : Value :=
  .object [("min", box.min.toJson), ("max", box.max.toJson)]

def Attributes.toJson (attributes : Attributes) : Value :=
  .object (attributes.entries.map fun entry => (entry.fst, .string entry.snd))

def Node.toJson (node : Node Float) : Value :=
  .object
    (("id", .ofInt node.id.raw.toInt) ::
      node.position.members ++ [("attributes", node.attributes.toJson)])

def Config.toJson (config : Config Float) : Value :=
  .object
    [("attraction", .ofFloat config.attraction),
      ("repulsion", .ofFloat config.repulsion),
      ("springLength", .ofFloat config.springLength),
      ("gravity", .ofFloat config.gravity),
      ("damper", .ofFloat config.damper),
      ("maxIterations", .ofInt config.maxIterations.toNat),
      ("movementThreshold", .ofFloat config.movementThreshold)]

end GraphLayout
