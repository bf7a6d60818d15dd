import GraphLayout.Scalar

/-!
# Parameters of a layout

How strong the forces are, and when a simulation ends. A layout is spatial unless something
else is asked for.
-/

namespace GraphLayout

inductive Dimensions where
  | two
  | three
  deriving DecidableEq, Repr

namespace Dimensions

def default : Dimensions :=
  three

instance : Inhabited Dimensions where
  default := default

def ofFlat (flat : Bool) : Dimensions :=
  if flat then two else three

def isFlat (dimensions : Dimensions) : Bool :=
  dimensions == two

end Dimensions

structure Config (α : Type) where
  attraction : α
  repulsion : α
  springLength : α
  gravity : α
  /-- The share of its velocity by which a node moves in one step. -/
  damper : α
  maxIterations : UInt32
  /-- A simulation ends after a step whose movement is not at least this. -/
  movementThreshold : α
  deriving Repr

namespace Config

variable {α : Type} [Scalar α]

def default : Config α where
  attraction := 0.1
  repulsion := 100000.0
  springLength := 100.0
  gravity := 0.1
  damper := 0.5
  maxIterations := 500
  movementThreshold := 10.0

instance : Inhabited (Config α) where
  default := default

end Config
end GraphLayout
