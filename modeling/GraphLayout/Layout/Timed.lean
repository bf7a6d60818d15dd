import GraphLayout.Layout.LoadJson
import GraphLayout.Layout.Simulate

/-!
# Layouts with a clock

The duration of the last simulation, from the readings of a clock that never goes
back. Loading or dropping a graph forgets it.
-/

namespace GraphLayout

structure TimedLayout (α : Type) where
  layout : Layout α
  started : Nat
  stopped : Nat

namespace TimedLayout

variable {α : Type} [Scalar α]

omit [Scalar α] in
def ofLayout (layout : Layout α) : TimedLayout α :=
  ⟨layout, 0, 0⟩

omit [Scalar α] in
def duration (timed : TimedLayout α) : Int :=
  (timed.stopped : Int) - timed.started

def clear (timed : TimedLayout α) : TimedLayout α :=
  ofLayout timed.layout.clear

def load (timed : TimedLayout α) (graph : Graph) : TimedLayout α × Log α :=
  let (loaded, log) := timed.layout.load graph
  (ofLayout loaded, log)

def loadJson (timed : TimedLayout α) (text : String) :
    TimedLayout α × Except Graph.DecodeError (Log α) :=
  match timed.layout.loadJson text with
  | (loaded, .ok log) => (ofLayout loaded, .ok log)
  | (_, .error error) => (timed, .error error)

def simulate (timed : TimedLayout α) (started : Nat) : TimedLayout α × Log α :=
  let (settled, log) := timed.layout.simulate
  (⟨settled, started, started⟩, log)

omit [Scalar α] in
def stop (timed : TimedLayout α) (stopped : Nat) : TimedLayout α :=
  { timed with stopped := stopped }

end TimedLayout
end GraphLayout
