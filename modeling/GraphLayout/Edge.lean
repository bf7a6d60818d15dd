import GraphLayout.Attributes

/-!
# Edges

An edge names the arena slots of its two ends. An end is absent when no node
was found for it, or when its node has been removed.
-/

namespace GraphLayout

structure EdgeId where
  raw : Int64
  deriving DecidableEq, Hashable, Repr

def EdgeId.display (id : EdgeId) : String :=
  "Edge(" ++ id.raw.toInt.repr ++ ")"

structure Edge where
  id : EdgeId
  source : Option Nat
  target : Option Nat
  attributes : Attributes
  deriving DecidableEq

namespace Edge

def attribute? (edge : Edge) (key : String) : Option String :=
  edge.attributes.get? key

def endpoints? (edge : Edge) : Option (Nat × Nat) :=
  match edge.source, edge.target with
  | some source, some target => some (source, target)
  | _, _ => none

def isDegenerate (edge : Edge) : Bool :=
  edge.endpoints?.isNone

def touches (slot : Nat) (edge : Edge) : Bool :=
  edge.source == some slot || edge.target == some slot

def detach (slot : Nat) (edge : Edge) : Edge :=
  { edge with
    source := if edge.source = some slot then none else edge.source
    target := if edge.target = some slot then none else edge.target }

theorem endpoints?_eq_some_iff {edge : Edge} {source target : Nat} :
    edge.endpoints? = some (source, target) <->
      edge.source = some source ∧ edge.target = some target := by
  obtain ⟨id, _ | s, _ | t, attributes⟩ := edge <;> simp [endpoints?]

end Edge
end GraphLayout
