import GraphLayout.Decimal.Fixed
import GraphLayout.Edge

/-!
# Events

What a layout reports while a graph is loaded and simulated.
-/

namespace GraphLayout

inductive Level where
  | trace
  | debug
  | warn
  deriving DecidableEq, Repr

def Level.name : Level -> String
  | trace => "TRACE"
  | debug => "DEBUG"
  | warn => "WARN"

inductive Event (α : Type) where
  /-- An edge has been loaded of which at least one end was not found. The ids of
  both ends are those of its element. -/
  | degenerateEdge (id : EdgeId) (source target : Option Int64)
  | loaded (nodes edges degenerate : Nat)
  /-- A simulation has ended although its last step still moved enough. -/
  | iterationCapReached (cap : UInt32) (movement : α)
  | finished (nodes : Nat) (iterations : UInt32)
  deriving DecidableEq, Repr

namespace Event

variable {α : Type}

def level : Event α -> Level
  | degenerateEdge _ _ _ => .trace
  | loaded _ _ _ => .debug
  | iterationCapReached _ _ => .warn
  | finished _ _ => .debug

def endText : Option Int64 -> String
  | some id => "Some(" ++ id.toInt.repr ++ ")"
  | none => "None"

def message : Event Float -> String
  | degenerateEdge id source target =>
      id.display ++ " is degenerate: from=" ++ endText source ++ " to=" ++ endText target
  | loaded nodes edges degenerate =>
      "loaded " ++ nodes.repr ++ " nodes, " ++ edges.repr ++ " edges (" ++
        degenerate.repr ++ " degenerate)"
  | iterationCapReached cap movement =>
      "layout stopped at the iteration cap (" ++ cap.toNat.repr ++ ") while still moving (" ++
        Decimal.fixedText 3 movement ++ ")"
  | finished nodes iterations =>
      "layout of " ++ nodes.repr ++ " nodes finished after " ++ iterations.toNat.repr ++
        " iterations"

end Event

abbrev Log (α : Type) :=
  Array (Event α)

end GraphLayout
