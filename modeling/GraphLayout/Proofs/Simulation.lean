import GraphLayout.Layout.Neighbors
import GraphLayout.Proofs.Arena.Frame
import GraphLayout.Proofs.Arena.Settling

/-!
# Runs of a simulation

What a simulation does from any state of a layout: after which step it ends, what it
reports, and what it leaves alone.
-/

namespace GraphLayout
namespace Layout

variable {α : Type} [Scalar α]

def step (layout : Layout α) : Arena α -> Arena α × α :=
  Arena.step layout.config layout.dimensions layout.edges

def afterSteps (layout : Layout α) (k : Nat) : Arena α :=
  Arena.after layout.step layout.arena k

def movement (layout : Layout α) (k : Nat) : α :=
  Arena.movement layout.step layout.arena k

def Ends (layout : Layout α) : Set Nat :=
  Arena.Ends layout.step layout.config.movementThreshold layout.config.maxIterations.toNat
    layout.arena

theorem run_spec (layout : Layout α) :
    exists k, IsLeast layout.Ends k ∧
      layout.run = ⟨layout.afterSteps (k + 1), UInt32.ofNat k, layout.movement k⟩ := by
  rcases Arena.settle_spec layout.step layout.config.movementThreshold
    layout.config.maxIterations.toNat 0 layout.arena with ⟨k, hleast, hrun⟩
  refine ⟨k, hleast, ?_⟩
  unfold run
  rw [show Arena.step layout.config layout.dimensions layout.edges = layout.step from rfl]
  rw [hrun, UInt32.zero_add]
  rfl

/-!
# What stays
-/

theorem sameNodes_afterSteps (layout : Layout α) (k : Nat) :
    Arena.SameNodes layout.arena (layout.afterSteps k) := by
  induction k with
  | zero =>
      exact Arena.SameNodes.refl layout.arena
  | succ k ih =>
      exact ih.trans (Arena.sameNodes_step layout.config layout.dimensions layout.edges _)

theorem sameNodes_simulate (layout : Layout α) :
    Arena.SameNodes layout.arena layout.simulate.1.arena := by
  rcases layout.run_spec with ⟨k, _, hrun⟩
  change Arena.SameNodes layout.arena layout.run.arena.normalize
  rw [hrun]
  exact (layout.sameNodes_afterSteps (k + 1)).trans (Arena.sameNodes_normalize _)

theorem atRest_simulate (layout : Layout α) : layout.simulate.1.arena.AtRest := by
  rcases layout.run_spec with ⟨k, _, hrun⟩
  change layout.run.arena.normalize.AtRest
  rw [hrun]
  exact Arena.atRest_normalize
    (Arena.atRest_step layout.config layout.dimensions layout.edges (layout.afterSteps k))

omit [Scalar α] in
theorem neighbors_congr {before after : Layout α} (hindex : after.index = before.index)
    (hnodes : Arena.SameNodes before.arena after.arena) (id : NodeId) :
    after.neighbors id = before.neighbors id := by
  have hid : forall slot,
      (after.node? slot).map Node.id = (before.node? slot).map Node.id := by
    intro slot
    have hlabel := congrArg (Option.map Prod.fst) (hnodes.label slot)
    rw [Option.map_map, Option.map_map] at hlabel
    exact hlabel
  unfold neighbors nodeIndex? Arena.adjacent
  rw [hindex, hnodes.links]
  simp only [hid]

/-- The second layout differs from the first one in nothing but the iterations counted
and in where its nodes are and how fast they move. -/
structure SameGraph (before after : Layout α) : Prop where
  config : after.config = before.config
  dimensions : after.dimensions = before.dimensions
  index : after.index = before.index
  edges : after.edges = before.edges
  spiral : after.spiral = before.spiral
  nodes : Arena.SameNodes before.arena after.arena
  bound : after.nodeBound = before.nodeBound
  neighbors : forall id, after.neighbors id = before.neighbors id

theorem sameGraph_simulate (layout : Layout α) : SameGraph layout layout.simulate.1 where
  config := rfl
  dimensions := rfl
  index := rfl
  edges := rfl
  spiral := rfl
  nodes := layout.sameNodes_simulate
  bound := layout.sameNodes_simulate.bound
  neighbors := neighbors_congr rfl layout.sameNodes_simulate

/-!
# The whole run

The loop of a simulation turns as long as the nodes move enough and its counter is
below the cap. So after `k` turns one more step is run, which does not count.
-/

/-- The turns of the loop of a simulation: their number, the arena they lead to and
the counter. -/
def Turns (layout : Layout α) : Nat -> Arena α -> UInt32 -> Prop :=
  Arena.Turns layout.step layout.config.movementThreshold layout.config.maxIterations
    layout.arena

theorem turns_iff {layout : Layout α} {k : Nat} (h : IsLeast layout.Ends k) (n : Nat)
    (arena : Arena α) (count : UInt32) :
    layout.Turns n arena count <->
      n ≤ k ∧ arena = layout.afterSteps n ∧ count.toNat = n := by
  constructor
  · intro hturns
    exact ⟨hturns.le_of_ends h.1, hturns.arena_eq, hturns.toNat_count⟩
  · intro hn
    rcases hn with ⟨hle, rfl, hcount⟩
    have hturns : layout.Turns n (layout.afterSteps n) (UInt32.ofNat n) :=
      Arena.Turns.of_isLeast h hle
    rw [show count = UInt32.ofNat n by rw [← hcount, UInt32.ofNat_toNat]]
    exact hturns

def report (layout : Layout α) (movement : α) : Log α :=
  if Scalar.ble layout.config.movementThreshold movement then
    #[.iterationCapReached layout.config.maxIterations movement]
  else #[]

theorem warns_report_iff (layout : Layout α) (movement : α) (nodes : Nat)
    (iterations : UInt32) :
    (exists event, event ∈ (layout.report movement).push (.finished nodes iterations) ∧
        event.level = Level.warn) <->
      Scalar.ble layout.config.movementThreshold movement = true := by
  unfold report
  cases Scalar.ble layout.config.movementThreshold movement with
  | true =>
      simp [Event.level]
  | false =>
      simp [Event.level]

theorem simulate_exact (layout : Layout α) :
    exists k : Nat,
      IsLeast {k | Scalar.ble layout.config.movementThreshold (layout.movement k) = false ∨
        k = layout.config.maxIterations.toNat} k ∧
      layout.simulate.1.iterations.toNat = k ∧
      (forall n arena count, layout.Turns n arena count <->
        n ≤ k ∧ arena = layout.afterSteps n ∧ count.toNat = n) ∧
      layout.simulate.1.arena = (layout.afterSteps (k + 1)).normalize ∧
      layout.simulate.2 = (layout.report (layout.movement k)).push
        (.finished layout.simulate.1.nodeCount layout.simulate.1.iterations) ∧
      ((exists event, event ∈ layout.simulate.2 ∧ event.level = Level.warn) <->
        Scalar.ble layout.config.movementThreshold (layout.movement k) = true) ∧
      SameGraph layout layout.simulate.1 ∧
      layout.simulate.1.arena.AtRest := by
  rcases layout.run_spec with ⟨k, hleast, hrun⟩
  have hk : (UInt32.ofNat k).toNat = k :=
    ((turns_iff hleast k _ _).mp (Arena.Turns.of_isLeast hleast (Nat.le_refl k))).2.2
  have hiterations : layout.simulate.1.iterations = UInt32.ofNat k := by
    change layout.run.iterations = UInt32.ofNat k
    rw [hrun]
  have hlog : layout.simulate.2 = (layout.report (layout.movement k)).push
      (.finished layout.simulate.1.nodeCount layout.simulate.1.iterations) := by
    have hmovement : layout.run.movement = layout.movement k := by
      rw [hrun]
    rw [← hmovement]
    rfl
  refine ⟨k, hleast, ?_, turns_iff hleast, ?_, hlog, ?_, layout.sameGraph_simulate,
    layout.atRest_simulate⟩
  · rw [hiterations, hk]
  · change layout.run.arena.normalize = _
    rw [hrun]
  · rw [hlog]
    exact layout.warns_report_iff _ _ _

end Layout
end GraphLayout
