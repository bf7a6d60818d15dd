import GraphLayout.Proofs.CheckedScalars
import GraphLayout.Proofs.Lengths
import GraphLayout.Proofs.Arena.Pairs

/-!
# Forces without a division by zero

The pull of an edge divides by a length, and the push of a node by a square and its root. Both
leave out the nodes between which these are zero. So attraction and repulsion over checked
scalars give the numbers that they give over the field: no quotient is missing.
-/

namespace GraphLayout

open Checked (number)

def Config.checked {K : Type} (config : Config K) : Config (Checked K) where
  attraction := number config.attraction
  repulsion := number config.repulsion
  springLength := number config.springLength
  gravity := number config.gravity
  damper := number config.damper
  maxIterations := config.maxIterations
  movementThreshold := number config.movementThreshold

variable {K : Type} [ExactScalar K]

theorem Checked.number_beq_zero (a : K) : (number a == 0) = (a == 0) :=
  rfl

theorem Dimensions.activeAxes_checked (dimensions : Dimensions) (a b : Vec3 K) :
    dimensions.activeAxes (a.checked - b.checked) = (dimensions.activeAxes (a - b)).checked := by
  cases dimensions <;> rfl

namespace Config

variable (config : Config K) (dimensions : Dimensions)

theorem pull?_checked (source target : Vec3 K) :
    config.checked.pull? dimensions source.checked target.checked =
      (config.pull? dimensions source target).map Vec3.checked := by
  unfold pull?
  dsimp only
  rw [dimensions.activeAxes_checked]
  generalize dimensions.activeAxes (target - source) = delta
  have hlength : delta.checked.length = number delta.length := rfl
  rw [hlength, Checked.number_beq_zero]
  by_cases hzero : delta.length = 0
  · rw [if_pos (beq_iff_eq.mpr hzero), if_pos (beq_iff_eq.mpr hzero)]
    rfl
  · rw [if_neg (mt beq_iff_eq.mp hzero), if_neg (mt beq_iff_eq.mp hzero),
      Vec3.div_checked delta hzero]
    rfl

theorem push?_checked [LawfulRoot K] (pushed pushing : Vec3 K) :
    config.checked.push? dimensions pushed.checked pushing.checked =
      (config.push? dimensions pushed pushing).map Vec3.checked := by
  unfold push?
  dsimp only
  rw [dimensions.activeAxes_checked]
  generalize dimensions.activeAxes (pushed - pushing) = delta
  have hsquare : delta.checked.lengthSquared = number delta.lengthSquared := rfl
  rw [hsquare, Checked.number_beq_zero]
  by_cases hzero : delta.lengthSquared = 0
  · rw [if_pos (beq_iff_eq.mpr hzero), if_pos (beq_iff_eq.mpr hzero)]
    rfl
  · have hroot : Scalar.sqrt delta.lengthSquared ≠ 0 :=
      mt (LawfulRoot.sqrt_eq_zero_iff delta.lengthSquared_nonneg).mp hzero
    have hdirection : delta.checked / Scalar.sqrt (number delta.lengthSquared) =
        (delta / Scalar.sqrt delta.lengthSquared).checked :=
      Vec3.div_checked delta hroot
    have hstrength : config.checked.repulsion / number delta.lengthSquared =
        number (config.repulsion / delta.lengthSquared) :=
      Checked.number_div config.repulsion hzero
    rw [if_neg (mt beq_iff_eq.mp hzero), if_neg (mt beq_iff_eq.mp hzero), hdirection, hstrength]
    rfl

end Config

namespace Arena

/-!
# Checked arenas
-/

omit [ExactScalar K] in
theorem node?_checked (arena : Arena K) (slot : Nat) :
    arena.checked.node? slot = (arena.node? slot).map Node.checked := by
  unfold node? checked
  rw [Array.getElem?_map]
  cases arena.slots[slot]? with
  | none =>
      rfl
  | some entry =>
      rfl

omit [ExactScalar K] in
theorem bound_checked (arena : Arena K) : arena.checked.bound = arena.bound := by
  unfold bound checked
  rw [Array.toList_map, ← List.map_reverse, List.dropWhile_map, List.length_map]
  simp only [Function.comp_def, Option.isNone_map]

omit [ExactScalar K] in
theorem modify_checked (arena : Arena K) (slot : Nat) {f : Node K -> Node K}
    {g : Node (Checked K) -> Node (Checked K)}
    (h : forall node, g node.checked = (f node).checked) :
    arena.checked.modify slot g = (arena.modify slot f).checked := by
  unfold modify checked
  congr 1
  apply Array.ext_getElem?
  intro i
  simp only [Array.getElem?_modify, Array.getElem?_map]
  split
  · rw [Option.map_map, Option.map_map]
    congr 1
    funext entry
    cases entry with
    | none =>
        rfl
    | some node =>
        exact congrArg some (h node)
  · rfl

/-!
# Forces between two nodes
-/

theorem exert_checked (arena : Arena K) (first second : Nat) (force : Vec3 K) :
    arena.checked.exert first second force.checked =
      (arena.exert first second force).checked := by
  unfold exert
  rw [modify_checked arena first (f := (·.accelerate force)) fun _ => rfl]
  exact modify_checked _ second fun _ => rfl

section Laws

variable {law : Vec3 K -> Vec3 K -> Option (Vec3 K)}
  {checkedLaw : Vec3 (Checked K) -> Vec3 (Checked K) -> Option (Vec3 (Checked K))}
  (hlaw : forall a b, checkedLaw a.checked b.checked = (law a b).map Vec3.checked)
include hlaw

theorem interact_checked (arena : Arena K) (pair : Nat × Nat) :
    arena.checked.interact checkedLaw pair = (arena.interact law pair).checked := by
  unfold interact
  rw [node?_checked, node?_checked]
  cases arena.node? pair.1 with
  | none =>
      rfl
  | some first =>
      cases arena.node? pair.2 with
      | none =>
          rfl
      | some second =>
          have hforce : checkedLaw first.checked.position second.checked.position =
              (law first.position second.position).map Vec3.checked :=
            hlaw first.position second.position
          simp only [Option.map_some]
          rw [hforce]
          cases law first.position second.position with
          | none =>
              rfl
          | some force =>
              exact exert_checked arena pair.1 pair.2 force

theorem foldl_interact_checked (arena : Arena K) (pairs : List (Nat × Nat)) :
    pairs.foldl (interact checkedLaw) arena.checked =
      (pairs.foldl (interact law) arena).checked := by
  induction pairs generalizing arena with
  | nil =>
      rfl
  | cons pair rest ih =>
      rw [List.foldl_cons, List.foldl_cons, interact_checked hlaw, ih]

end Laws

/-!
# Attraction and repulsion
-/

variable (config : Config K) (dimensions : Dimensions)

theorem attract_checked (edges : Array Edge) (arena : Arena K) :
    arena.checked.attract config.checked dimensions edges =
      (arena.attract config dimensions edges).checked := by
  rw [attract_eq_foldl_endpoints, attract_eq_foldl_endpoints]
  exact foldl_interact_checked (config.pull?_checked dimensions) arena _

theorem repel_checked [LawfulRoot K] (arena : Arena K) :
    arena.checked.repel config.checked dimensions = (arena.repel config dimensions).checked := by
  unfold repel repelPairs
  rw [bound_checked]
  exact foldl_interact_checked (config.push?_checked dimensions) arena _

end Arena
end GraphLayout
