import GraphLayout.Proofs.Simulation

/-!
# Simulations without nodes

Where there are no nodes, no step has speeds to sum up, and its movement is the negative
zero from which sums start. So it depends on the threshold alone whether a simulation ends
at once or counts as many iterations as it may.
-/

namespace GraphLayout

variable {α : Type} [Scalar α]

namespace Arena

omit [Scalar α] in
theorem SameNodes.nodes_eq_nil {a b : Arena α} (h : SameNodes a b) (hnodes : a.nodes = []) :
    b.nodes = [] := by
  have hlabels := h.agreeBy.nodes
  rw [hnodes, List.map_nil] at hlabels
  exact List.map_eq_nil_iff.mp hlabels

omit [Scalar α] in
theorem count_of_nodes_eq_nil {arena : Arena α} (h : arena.nodes = []) : arena.count = 0 := by
  have hlength : arena.nodes.length = arena.count :=
    List.length_filterMap_eq_countP
  rw [← hlength, h, List.length_nil]

theorem step_movement_of_nodes_eq_nil (config : Config α) (dimensions : Dimensions)
    (edges : Array Edge) {arena : Arena α} (h : arena.nodes = []) :
    (Arena.step config dimensions edges arena).2 = Scalar.sum [] := by
  have hpushed := ((arena.sameNodes_attract config dimensions edges).trans
    (sameNodes_repel config dimensions _)).trans (sameNodes_gravitate config _)
  simp only [Arena.step, speeds, hpushed.nodes_eq_nil h, List.map_nil]

end Arena

namespace Layout

variable {layout : Layout α}

theorem movement_of_nodes_eq_nil (h : layout.nodes = []) (k : Nat) :
    layout.movement k = Scalar.sum [] :=
  Arena.step_movement_of_nodes_eq_nil _ _ _ ((layout.sameNodes_afterSteps k).nodes_eq_nil h)

theorem run_of_nodes_eq_nil (h : layout.nodes = []) :
    layout.run.movement = Scalar.sum [] ∧
      layout.run.iterations =
        if Scalar.ble layout.config.movementThreshold (Scalar.sum []) then
          layout.config.maxIterations
        else 0 := by
  rcases layout.run_spec with ⟨k, ⟨hends, hleast⟩, hrun⟩
  rw [hrun]
  refine ⟨movement_of_nodes_eq_nil h k, ?_⟩
  cases hmoves : Scalar.ble layout.config.movementThreshold (Scalar.sum []) with
  | false =>
      have hzero : 0 ∈ layout.Ends := by
        apply Or.inl
        rw [← hmoves, ← movement_of_nodes_eq_nil h 0]
        rfl
      cases Nat.le_zero.mp (hleast hzero)
      rfl
  | true =>
      have hcap : k = layout.config.maxIterations.toNat := by
        rcases hends with hquiet | hcap
        · rw [show Arena.movement layout.step layout.arena k = Scalar.sum [] from
            movement_of_nodes_eq_nil h k, hmoves] at hquiet
          contradiction
        · exact hcap
      simp only [if_true, hcap, UInt32.ofNat_toNat]

theorem simulate_of_nodes_eq_nil (h : layout.nodes = []) :
    layout.simulate.1.iterations =
        (if Scalar.ble layout.config.movementThreshold (Scalar.sum []) then
          layout.config.maxIterations
        else 0) ∧
      layout.simulate.2 =
        (layout.report (Scalar.sum [])).push (.finished 0 layout.simulate.1.iterations) ∧
      layout.simulate.1.nodes = [] := by
  have hnodes : layout.simulate.1.nodes = [] := layout.sameNodes_simulate.nodes_eq_nil h
  rcases run_of_nodes_eq_nil h with ⟨hmovement, hiterations⟩
  refine ⟨hiterations, ?_, hnodes⟩
  change (layout.report layout.run.movement).push
    (.finished layout.simulate.1.nodeCount layout.simulate.1.iterations) = _
  rw [hmovement, nodeCount, Arena.count_of_nodes_eq_nil hnodes]

end Layout

/-!
# Binary64 numbers
-/

namespace FloatOrder

open Float.Model (UnpackedFloat)
open Float.Model.UnpackedFloat (Sign)

theorem le_iff (x y : Float) : x ≤ y <-> x.toModel.unpack.le y.toModel.unpack = true := by
  change decide (x.toModel ≤ y.toModel) = true <-> _
  rw [decide_eq_true_iff]
  rfl

theorem le_zero_eq (u : UnpackedFloat) (first second : Sign) :
    u.le (.zero first) = u.le (.zero second) := by
  cases u with
  | notANumber =>
      rfl
  | zero sign =>
      rfl
  | infinity sign =>
      cases sign <;> rfl
  | finite sign mantissa exponent canonical =>
      cases sign <;> rfl

theorem sum_nil_eq : Scalar.sum ([] : List Float) = -0.0 := by
  decide

theorem ble_neg_zero_iff (x : Float) : Scalar.ble x (-0.0) = true <-> x ≤ 0 := by
  change decide (x ≤ -0.0) = true <-> x ≤ 0
  have hneg : (-0.0 : Float).toModel.unpack = .zero .negative := rfl
  have hzero : (0 : Float).toModel.unpack = .zero .positive := rfl
  rw [decide_eq_true_iff, le_iff, le_iff, hneg, hzero, le_zero_eq _ .negative .positive]

end FloatOrder

namespace Layout

/-- A simulation without nodes ends at once, unless the threshold is a number that is not above
zero. Then it counts all iterations that it may, and reports that it is still moving. -/
theorem simulate_without_nodes (layout : Layout Float) (h : layout.nodes = []) :
    (¬layout.config.movementThreshold ≤ 0 ->
      layout.simulate.1.iterations = 0 ∧ layout.simulate.2 = #[.finished 0 0]) ∧
    (layout.config.movementThreshold ≤ 0 ->
      layout.simulate.1.iterations = layout.config.maxIterations ∧
      layout.simulate.2 = #[.iterationCapReached layout.config.maxIterations (-0.0),
        .finished 0 layout.config.maxIterations]) ∧
    ((exists event, event ∈ layout.simulate.2 ∧ event.level = Level.warn) <->
      layout.config.movementThreshold ≤ 0) ∧
    layout.simulate.1.edges = layout.edges := by
  rcases simulate_of_nodes_eq_nil h with ⟨hiterations, hlog, _⟩
  rw [FloatOrder.sum_nil_eq] at hiterations hlog
  refine ⟨?_, ?_, ?_, rfl⟩
  · intro hthreshold
    have hquiet : ¬Scalar.ble layout.config.movementThreshold (-0.0) = true :=
      mt (FloatOrder.ble_neg_zero_iff _).mp hthreshold
    rw [if_neg hquiet] at hiterations
    rw [hlog, hiterations, report, if_neg hquiet]
    exact ⟨rfl, rfl⟩
  · intro hthreshold
    have hmoves : Scalar.ble layout.config.movementThreshold (-0.0) = true :=
      (FloatOrder.ble_neg_zero_iff _).mpr hthreshold
    rw [if_pos hmoves] at hiterations
    rw [hlog, hiterations, report, if_pos hmoves]
    exact ⟨rfl, rfl⟩
  · rw [hlog, warns_report_iff, FloatOrder.ble_neg_zero_iff]

theorem simulate_without_nodes_default :
    let layout : Layout Float := default
    layout.nodes = [] ∧ ¬layout.config.movementThreshold ≤ 0 ∧
      layout.simulate.1.iterations = 0 ∧ layout.simulate.2 = #[.finished 0 0] := by
  intro layout
  have hnodes : layout.nodes = [] := rfl
  have hthreshold : ¬layout.config.movementThreshold ≤ 0 := by
    decide
  exact ⟨hnodes, hthreshold, (simulate_without_nodes layout hnodes).1 hthreshold⟩

/-- With a threshold of zero, a layout that was never loaded counts all its iterations. -/
theorem simulate_new_at_zero :
    let layout : Layout Float := new .three { Config.default with movementThreshold := 0 }
    layout.nodes = [] ∧ layout.simulate.1.iterations = 500 ∧
      exists event, event ∈ layout.simulate.2 ∧ event.level = Level.warn := by
  intro layout
  have hnodes : layout.nodes = [] := rfl
  rcases simulate_of_nodes_eq_nil hnodes with ⟨hiterations, hlog, _⟩
  have hmoves : Scalar.ble layout.config.movementThreshold (Scalar.sum []) = true := by
    decide
  rw [if_pos hmoves] at hiterations
  refine ⟨hnodes, hiterations, ?_⟩
  rw [hlog]
  exact (layout.warns_report_iff _ _ _).mpr hmoves

end Layout
end GraphLayout
