import GraphLayout.Decimal.Binary
import GraphLayout.Layout.Neighbors
import GraphLayout.Layout.Remove

/-!
# Ids as binary64 numbers

A caller whose only numbers are binary64 ones names nodes by them. A number names
a node only if it is whole and small enough for all whole numbers up to it to be
told apart.
-/

namespace GraphLayout

namespace NodeId

/-- The greatest whole number that has no rounded neighbor. -/
def greatestExact : Nat :=
  Nat.pow 2 53 - 1

def wholeValue? (magnitude : Decimal.Magnitude) : Option Nat :=
  let (numerator, denominator) := Decimal.scaled magnitude.mantissa magnitude.exponent 0
  if numerator % denominator = 0 then some (numerator / denominator) else none

def ofFloat? (x : Float) : Option NodeId :=
  match Decimal.Parts.ofFloat x with
  | .finite negative magnitude =>
      match wholeValue? magnitude with
      | some value =>
          if value ≤ greatestExact then
            some ⟨.ofInt (if negative then -(value : Int) else value)⟩
          else none
      | none => none
  | _ => none

def toFloat (id : NodeId) : Float :=
  .ofInt id.raw.toInt

end NodeId

namespace Layout

variable {α : Type}

def findNumbered? (layout : Layout α) (x : Float) : Option (Node α) :=
  (NodeId.ofFloat? x).bind layout.findNode?

def numberedNeighbors (layout : Layout α) (x : Float) : List Float :=
  match NodeId.ofFloat? x with
  | some id => (layout.neighbors id).map NodeId.toFloat
  | none => []

def removeNumbered (layout : Layout α) (x : Float) : Layout α × Bool :=
  match NodeId.ofFloat? x with
  | some id => layout.remove id
  | none => (layout, false)

end Layout
end GraphLayout
