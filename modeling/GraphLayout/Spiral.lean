import GraphLayout.Config
import GraphLayout.Vec3

/-!
# Spiral of first positions

Every node starts at the next point of a widening spiral. Two angles advance
together; the second one lifts the spiral out of the plane in space.
-/

namespace GraphLayout

structure Spiral (α : Type) where
  turn : α
  lift : α
  deriving Repr

namespace Spiral

variable {α : Type} [Scalar α]

def start : Spiral α :=
  ⟨0.1, 0.1⟩

def advance (spiral : Spiral α) : Spiral α :=
  ⟨spiral.turn + 0.1, spiral.lift + 0.1⟩

def distance (spiral : Spiral α) : α :=
  10.0 * spiral.turn

def point (dimensions : Dimensions) (spiral : Spiral α) : Vec3 α :=
  let r := spiral.distance
  match dimensions with
  | .two =>
      ⟨Scalar.cos spiral.turn * r, Scalar.sin spiral.turn * r, 0⟩
  | .three =>
      ⟨Scalar.cos spiral.turn * r,
        Scalar.sin spiral.turn * r + Scalar.cos spiral.lift * r,
        Scalar.sin spiral.lift * r⟩

/-- The angles advance before the point is taken. -/
def next (dimensions : Dimensions) (spiral : Spiral α) : Vec3 α × Spiral α :=
  (spiral.advance.point dimensions, spiral.advance)

instance : BEq (Spiral α) where
  beq a b := a.turn == b.turn && a.lift == b.lift

end Spiral
end GraphLayout
