import GraphLayout.Event
import GraphLayout.Forces
import GraphLayout.Layout.Basic

/-!
# Simulation

A simulation runs steps until one moves the nodes by less than the threshold, or
until the iterations reach their greatest number, and then rescales the layout.
The first step is always run; an iteration is counted when a further one follows.
-/

namespace GraphLayout

variable {α : Type} [Scalar α]

/-- One step: the three forces, and then the move of every node. The movement of
the step is the sum of the speeds that the forces gave the nodes. -/
def Arena.step (config : Config α) (dimensions : Dimensions) (edges : Array Edge)
    (arena : Arena α) : Arena α × α :=
  let pushed :=
    ((arena.attract config dimensions edges).repel config dimensions).gravitate config
  (pushed.advance config, Scalar.sum pushed.speeds)

structure Run (α : Type) where
  arena : Arena α
  iterations : UInt32
  movement : α

/-- Runs steps while their movement reaches the threshold, counting iterations up
to a number that is left. -/
def Arena.settle (step : Arena α -> Arena α × α) (threshold : α) :
    Nat -> UInt32 -> Arena α -> Run α
  | 0, iterations, arena =>
      let (moved, movement) := step arena
      ⟨moved, iterations, movement⟩
  | left + 1, iterations, arena =>
      let (moved, movement) := step arena
      if Scalar.ble threshold movement then
        settle step threshold left (iterations + 1) moved
      else
        ⟨moved, iterations, movement⟩

namespace Layout

def run (layout : Layout α) : Run α :=
  layout.arena.settle (Arena.step layout.config layout.dimensions layout.edges)
    layout.config.movementThreshold layout.config.maxIterations.toNat 0

def simulate (layout : Layout α) : Layout α × Log α :=
  let run := layout.run
  let settled : Layout α :=
    { layout with
      arena := run.arena.normalize
      iterations := run.iterations }
  let warnings : Log α :=
    if Scalar.ble layout.config.movementThreshold run.movement then
      #[.iterationCapReached layout.config.maxIterations run.movement]
    else #[]
  (settled, warnings.push (.finished settled.nodeCount settled.iterations))

end Layout
end GraphLayout
