import GraphLayout.Layout.LoadJson
import GraphLayout.Layout.Neighbors
import GraphLayout.Layout.Remove
import GraphLayout.Proofs.Topology

/-!
# What a layout was used for before

A caller operates a layout and sees nothing of it but the replies. Two layouts that give
the same replies to every list of operations are indistinguishable. Dropping the graph
makes a layout indistinguishable from a new one, and loading a graph makes it so from a
new one into which the graph was loaded, whatever was done before. A text is loaded
as a whole or not at all.
-/

namespace GraphLayout

/-!
# Operations and replies
-/

inductive Query where
  | nodes
  | node (slot : Nat)
  | nodeCount
  | nodeBound
  | edges
  | edgeCount
  | endpoints (edge : Edge)
  | slot (id : NodeId)
  | find (id : NodeId)
  | neighbors (id : NodeId)
  | positions
  | bounds
  | iterations
  | parameters

inductive Operation where
  | load (graph : Graph)
  | loadJson (text : String)
  | simulate
  | remove (id : NodeId)
  | clear
  | ask (query : Query)

inductive Reply (α : Type) where
  | done
  | log (log : Log α)
  | refused (error : Graph.DecodeError)
  | removed (found : Bool)
  | nodes (nodes : List (Node α))
  | node (node : Option (Node α))
  | ends (source target : Option (Node α))
  | edges (edges : Array Edge)
  | slot (slot : Option Nat)
  | ids (ids : List NodeId)
  | number (number : Nat)
  | coordinates (coordinates : List α)
  | box (box : Option (BoundingBox α))
  | parameters (dimensions : Dimensions) (config : Config α)

namespace Layout

variable {α : Type} [Scalar α]

def answer (layout : Layout α) : Query -> Reply α
  | .nodes => .nodes layout.nodes
  | .node slot => .node (layout.node? slot)
  | .nodeCount => .number layout.nodeCount
  | .nodeBound => .number layout.nodeBound
  | .edges => .edges layout.edges
  | .edgeCount => .number layout.edgeCount
  | .endpoints edge => .ends (layout.edgeEndpoints edge).1 (layout.edgeEndpoints edge).2
  | .slot id => .slot (layout.nodeIndex? id)
  | .find id => .node (layout.findNode? id)
  | .neighbors id => .ids (layout.neighbors id)
  | .positions => .coordinates layout.positions
  | .bounds => .box layout.bounds?
  | .iterations => .number layout.iterations.toNat
  | .parameters => .parameters layout.dimensions layout.config

def operate (layout : Layout α) : Operation -> Layout α × Reply α
  | .load graph => ((layout.load graph).1, .log (layout.load graph).2)
  | .loadJson text =>
      match layout.loadJson text with
      | (loaded, .ok log) => (loaded, .log log)
      | (unchanged, .error error) => (unchanged, .refused error)
  | .simulate => (layout.simulate.1, .log layout.simulate.2)
  | .remove id => ((layout.remove id).1, .removed (layout.remove id).2)
  | .clear => (layout.clear, .done)
  | .ask query => (layout, layout.answer query)

def operateAll (layout : Layout α) (operations : List Operation) : Layout α :=
  operations.foldl (fun layout operation => (layout.operate operation).1) layout

def replies (layout : Layout α) : List Operation -> List (Reply α)
  | [] => []
  | operation :: rest =>
      (layout.operate operation).2 :: (layout.operate operation).1.replies rest

/-- No list of operations tells the layouts apart. -/
def Indistinguishable (first second : Layout α) : Prop :=
  forall operations, first.replies operations = second.replies operations

/-!
# Parameters

The parameters are all that a layout keeps of its history when its graph is dropped.
-/

theorem parameters_load (layout : Layout α) (graph : Graph) :
    (layout.load graph).1.dimensions = layout.dimensions ∧
      (layout.load graph).1.config = layout.config :=
  ⟨(seeded_load layout graph).dimensions, (seeded_load layout graph).config⟩

omit [Scalar α] in
theorem parameters_remove (layout : Layout α) (id : NodeId) :
    (layout.remove id).1.dimensions = layout.dimensions ∧
      (layout.remove id).1.config = layout.config := by
  unfold remove
  cases layout.nodeIndex? id with
  | none =>
      exact ⟨rfl, rfl⟩
  | some slot =>
      exact ⟨rfl, rfl⟩

theorem operate_loadJson_of_ok (layout : Layout α) {text : String} {graph : Graph}
    (h : Graph.ofJson text = .ok graph) :
    layout.operate (.loadJson text) = layout.operate (.load graph) := by
  simp only [operate, loadJson, h]

theorem operate_loadJson_of_error (layout : Layout α) {text : String} {error : Graph.DecodeError}
    (h : Graph.ofJson text = .error error) :
    layout.operate (.loadJson text) = (layout, .refused error) := by
  simp only [operate, loadJson, h]

theorem parameters_operate (layout : Layout α) (operation : Operation) :
    (layout.operate operation).1.dimensions = layout.dimensions ∧
      (layout.operate operation).1.config = layout.config := by
  cases operation with
  | load graph =>
      exact layout.parameters_load graph
  | loadJson text =>
      cases hread : Graph.ofJson text with
      | ok graph =>
          rw [layout.operate_loadJson_of_ok hread]
          exact layout.parameters_load graph
      | error error =>
          rw [layout.operate_loadJson_of_error hread]
          exact ⟨rfl, rfl⟩
  | simulate =>
      exact ⟨rfl, rfl⟩
  | remove id =>
      exact layout.parameters_remove id
  | clear =>
      exact ⟨rfl, rfl⟩
  | ask query =>
      exact ⟨rfl, rfl⟩

theorem parameters_operateAll (layout : Layout α) (operations : List Operation) :
    (layout.operateAll operations).dimensions = layout.dimensions ∧
      (layout.operateAll operations).config = layout.config := by
  induction operations generalizing layout with
  | nil =>
      exact ⟨rfl, rfl⟩
  | cons operation rest ih =>
      rcases layout.parameters_operate operation with ⟨hdimensions, hconfig⟩
      rcases ih (layout.operate operation).1 with ⟨hrest, hrest'⟩
      exact ⟨hrest.trans hdimensions, hrest'.trans hconfig⟩

/-!
# Forgetting
-/

theorem clear_eq_new (layout : Layout α) : layout.clear = new layout.dimensions layout.config :=
  rfl

theorem load_eq_of_clear_eq {first second : Layout α} (h : first.clear = second.clear)
    (graph : Graph) : first.load graph = second.load graph := by
  unfold load
  rw [h]

theorem clear_operateAll_new (dimensions : Dimensions) (config : Config α)
    (history : List Operation) :
    ((new dimensions config).operateAll history).clear = new dimensions config := by
  rcases (new dimensions config).parameters_operateAll history with ⟨hdimensions, hconfig⟩
  rw [clear_eq_new, hdimensions, hconfig]
  rfl

theorem load_operateAll_new (dimensions : Dimensions) (config : Config α)
    (history : List Operation) (graph : Graph) :
    ((new dimensions config).operateAll history).load graph =
      (new dimensions config).load graph :=
  load_eq_of_clear_eq (clear_operateAll_new dimensions config history) graph

theorem replies_forget_history (dimensions : Dimensions) (config : Config α)
    (history : List Operation) :
    let fresh := new dimensions config
    let layout := fresh.operateAll history
    Indistinguishable layout.clear fresh ∧
      (forall graph, Indistinguishable (layout.load graph).1 (fresh.load graph).1 ∧
        (layout.load graph).2 = (fresh.load graph).2) ∧
      forall text,
        (exists error, Graph.ofJson text = .error error ∧
          layout.operate (.loadJson text) = (layout, .refused error)) ∨
        exists graph, Graph.ofJson text = .ok graph ∧
          layout.operate (.loadJson text) = layout.operate (.load graph) := by
  intro fresh layout
  have hclear : layout.clear = fresh := clear_operateAll_new dimensions config history
  have hload : forall graph, layout.load graph = fresh.load graph :=
    load_operateAll_new dimensions config history
  refine ⟨?_, ?_, ?_⟩
  · intro operations
    rw [hclear]
  · intro graph
    rw [hload]
    exact ⟨fun operations => rfl, rfl⟩
  · intro text
    cases hread : Graph.ofJson text with
    | error error =>
        exact Or.inl ⟨error, rfl, layout.operate_loadJson_of_error hread⟩
    | ok graph =>
        exact Or.inr ⟨graph, rfl, layout.operate_loadJson_of_ok hread⟩

end Layout
end GraphLayout
