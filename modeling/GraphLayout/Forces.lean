import GraphLayout.Arena
import GraphLayout.Config
import GraphLayout.Edge

/-!
# Forces

Each force adds to the velocities of the present nodes. Positions are read and
never changed, so that every force of a step sees the same positions.

Two nodes at the same point have no direction between them; they exert no force
on each other. Repulsion divides by the sum of squares itself, not by the square
of the distance, as the two can differ in their last bit.
-/

namespace GraphLayout

variable {α : Type} [Scalar α]

def Dimensions.activeAxes (dimensions : Dimensions) (delta : Vec3 α) : Vec3 α :=
  if dimensions.isFlat then delta.flattened else delta

namespace Node

def accelerate (node : Node α) (force : Vec3 α) : Node α :=
  { node with velocity := node.velocity + force }

def decelerate (node : Node α) (force : Vec3 α) : Node α :=
  { node with velocity := node.velocity - force }

end Node

namespace Config

/-- The pull of an edge on its source, which its target feels reversed. An edge
no longer than its rest length pulls with a force of zero. -/
def pull? (config : Config α) (dimensions : Dimensions) (source target : Vec3 α) :
    Option (Vec3 α) :=
  let delta := dimensions.activeAxes (target - source)
  let distance := delta.length
  if distance == 0 then none
  else
    let force := config.attraction * Scalar.max (distance - config.springLength) 0
    some (delta / distance * force)

/-- The push of a node on another, given the position of the pushed node first.
It falls with the square of the distance. -/
def push? (config : Config α) (dimensions : Dimensions) (pushed pushing : Vec3 α) :
    Option (Vec3 α) :=
  let delta := dimensions.activeAxes (pushed - pushing)
  let square := delta.lengthSquared
  if square == 0 then none
  else
    let force := config.repulsion / square
    some (delta / Scalar.sqrt square * force)

end Config

def ascendingPairs (bound : Nat) : List (Nat × Nat) :=
  (List.range bound).flatMap fun i =>
    (List.range' (i + 1) (bound - (i + 1))).map fun j => (i, j)

namespace Arena

def exert (arena : Arena α) (first second : Nat) (force : Vec3 α) : Arena α :=
  (arena.modify first (·.accelerate force)).modify second (·.decelerate force)

/-- Lets a law of force act between the nodes of two slots. Nothing happens when a
slot is vacant or the law gives no force. -/
def interact (force? : Vec3 α -> Vec3 α -> Option (Vec3 α)) (arena : Arena α)
    (pair : Nat × Nat) : Arena α :=
  match arena.node? pair.fst, arena.node? pair.snd with
  | some a, some b =>
      match force? a.position b.position with
      | some force => arena.exert pair.fst pair.snd force
      | none => arena
  | _, _ => arena

def attractAlong (config : Config α) (dimensions : Dimensions) (arena : Arena α) (edge : Edge) :
    Arena α :=
  match edge.endpoints? with
  | some ends => arena.interact (config.pull? dimensions) ends
  | none => arena

def attract (config : Config α) (dimensions : Dimensions) (edges : Array Edge)
    (arena : Arena α) : Arena α :=
  edges.foldl (attractAlong config dimensions) arena

def repelPairs (config : Config α) (dimensions : Dimensions) (pairs : List (Nat × Nat))
    (arena : Arena α) : Arena α :=
  pairs.foldl (interact (config.push? dimensions)) arena

def repel (config : Config α) (dimensions : Dimensions) (arena : Arena α) : Arena α :=
  arena.repelPairs config dimensions (ascendingPairs arena.bound)

def gravitate (config : Config α) (arena : Arena α) : Arena α :=
  arena.map fun node => node.decelerate (node.position * config.gravity)

def advance (config : Config α) (arena : Arena α) : Arena α :=
  arena.map (Node.advance config.damper)

def speeds (arena : Arena α) : List α :=
  arena.nodes.map Node.speed

end Arena
end GraphLayout
