import GraphLayout.Proofs.CheckedScalars
import GraphLayout.Proofs.TightBox
import GraphLayout.Proofs.Arena.Frame
import Mathlib.Tactic.FieldSimp
import Mathlib.Tactic.Ring

/-!
# Rescaling to the unit box

In exact arithmetic the rescaling of a layout is a change of every axis by itself, which keeps
the order of the coordinates and takes the ends of the box to half a unit on either side of the
origin. A layout that is flat on the third axis gets zero there instead.
-/

namespace GraphLayout

variable {K : Type} [ExactScalar K]

namespace BoundingBox

/-!
# One axis
-/

theorem on_extent (box : BoundingBox K) (axis : Axis) :
    box.extent.on axis = box.max.on axis - box.min.on axis :=
  Vec3.on_sub axis box.max box.min

theorem on_center (box : BoundingBox K) (axis : Axis) :
    box.center.on axis = (box.min.on axis + box.max.on axis) / 2 := by
  have htwo : (Scalar.toOfScientific.ofScientific 20 true 1 : K) = 2 := by
    rw [ExactScalar.literal]
    norm_num
  rw [← htwo]
  cases axis <;> rfl

/-- The factor of an axis without extent is zero, as is one divided by zero in a field. -/
theorem on_unitScale (box : BoundingBox K) (axis : Axis) :
    box.unitScale.on axis = 1 / box.extent.on axis := by
  have hone : (Scalar.toOfScientific.ofScientific 10 true 1 : K) = 1 := by
    rw [ExactScalar.literal]
    norm_num
  rw [← hone]
  cases axis with
  | x =>
      rfl
  | y =>
      rfl
  | z =>
      change (if (box.max.z == box.min.z) = true then 0
        else Scalar.toOfScientific.ofScientific 10 true 1 / (box.max.z - box.min.z)) =
          Scalar.toOfScientific.ofScientific 10 true 1 / (box.max.z - box.min.z)
      by_cases hflat : box.max.z = box.min.z
      · rw [if_pos (beq_iff_eq.mpr hflat), hflat, sub_self, div_zero]
      · rw [if_neg (mt beq_iff_eq.mp hflat)]

def rescaleOn (box : BoundingBox K) (axis : Axis) (c : K) : K :=
  (c - (box.min.on axis + box.max.on axis) / 2) * (1 / box.extent.on axis)

theorem on_rescale (box : BoundingBox K) (axis : Axis) (point : Vec3 K) :
    (box.rescale point).on axis = box.rescaleOn axis (point.on axis) := by
  unfold rescale rescaleOn
  rw [Vec3.on_scaleBy, Vec3.on_sub, on_center, on_unitScale]

section Ends

variable {box : BoundingBox K} {axis : Axis}

theorem rescaleOn_of_flat (h : box.extent.on axis = 0) (c : K) : box.rescaleOn axis c = 0 := by
  unfold rescaleOn
  rw [h, div_zero, mul_zero]

theorem rescaleOn_max : box.rescaleOn axis (box.max.on axis) =
    if box.extent.on axis = 0 then 0 else 1 / 2 := by
  by_cases h : box.extent.on axis = 0
  · rw [if_pos h]
    exact rescaleOn_of_flat h _
  · rw [if_neg h]
    rw [on_extent] at h
    unfold rescaleOn
    rw [on_extent]
    field_simp
    ring

theorem rescaleOn_min : box.rescaleOn axis (box.min.on axis) =
    if box.extent.on axis = 0 then 0 else -(1 / 2) := by
  have hopposite : box.rescaleOn axis (box.min.on axis) =
      -box.rescaleOn axis (box.max.on axis) := by
    unfold rescaleOn
    ring
  rw [hopposite, rescaleOn_max, apply_ite Neg.neg, neg_zero]

theorem monotone_rescaleOn (h : 0 ≤ box.extent.on axis) : Monotone (box.rescaleOn axis) := by
  intro a b hle
  exact mul_le_mul_of_nonneg_right (sub_le_sub_right hle _) (one_div_nonneg.mpr h)

theorem strictMono_rescaleOn (h : 0 < box.extent.on axis) : StrictMono (box.rescaleOn axis) := by
  intro a b hlt
  exact mul_lt_mul_of_pos_right (sub_lt_sub_right hlt _) (one_div_pos.mpr h)

end Ends

theorem Tight.extent_nonneg {box : BoundingBox K} {points : List (Vec3 K)}
    (h : box.Tight points) (axis : Axis) : 0 ≤ box.extent.on axis := by
  rw [on_extent]
  exact sub_nonneg.mpr (h.on_le axis)

/-!
# The box afterwards
-/

/-- Half a unit to either side of the origin, without extent on the third axis if the box had
none there. -/
def unitBox (box : BoundingBox K) : BoundingBox K :=
  ⟨⟨-(1 / 2), -(1 / 2), if box.extent.z = 0 then 0 else -(1 / 2)⟩,
    ⟨1 / 2, 1 / 2, if box.extent.z = 0 then 0 else 1 / 2⟩⟩

theorem rescale_ends {box : BoundingBox K} (hx : box.extent.x ≠ 0) (hy : box.extent.y ≠ 0) :
    (⟨box.rescale box.min, box.rescale box.max⟩ : BoundingBox K) = box.unitBox := by
  have hmin : box.rescale box.min = box.unitBox.min := by
    apply Vec3.ext_on
    intro axis
    rw [on_rescale, rescaleOn_min]
    cases axis with
    | x =>
        exact if_neg hx
    | y =>
        exact if_neg hy
    | z =>
        rfl
  have hmax : box.rescale box.max = box.unitBox.max := by
    apply Vec3.ext_on
    intro axis
    rw [on_rescale, rescaleOn_max]
    cases axis with
    | x =>
        exact if_neg hx
    | y =>
        exact if_neg hy
    | z =>
        rfl
  rw [hmin, hmax]

theorem Tight.rescale {box : BoundingBox K} {points : List (Vec3 K)} (h : box.Tight points)
    (hx : box.extent.x ≠ 0) (hy : box.extent.y ≠ 0) :
    box.unitBox.Tight (points.map box.rescale) := by
  rw [← rescale_ends hx hy]
  exact h.map box.on_rescale fun axis => monotone_rescaleOn (h.extent_nonneg axis)

end BoundingBox

/-!
# Arenas
-/

namespace Arena

theorem bounds?_eq_some_iff {arena : Arena K} {box : BoundingBox K} :
    arena.bounds? = some box <-> box.Tight arena.positions :=
  BoundingBox.ofList?_eq_some_iff

theorem node?_normalize {arena : Arena K} {box : BoundingBox K} (h : arena.bounds? = some box)
    (slot : Nat) :
    arena.normalize.node? slot =
      (arena.node? slot).map fun node => { node with position := box.rescale node.position } := by
  unfold normalize
  rw [h]
  exact node?_map arena _ slot

theorem positions_normalize {arena : Arena K} {box : BoundingBox K}
    (h : arena.bounds? = some box) :
    arena.normalize.positions = arena.positions.map box.rescale := by
  unfold positions normalize
  rw [h, nodes_map, List.map_map, List.map_map]
  rfl

structure Unitizes (box : BoundingBox K) (before after : Arena K) : Prop where
  bounds : after.bounds? = some box.unitBox
  tight : box.unitBox.Tight after.positions
  /-- Nodes keep their order on every axis on which they had one. -/
  order : forall axis, box.extent.on axis ≠ 0 -> forall {s t : Nat} {a b a' b' : Node K},
    before.node? s = some a -> before.node? t = some b ->
    after.node? s = some a' -> after.node? t = some b' ->
    (a.position.on axis < b.position.on axis <-> a'.position.on axis < b'.position.on axis)
  /-- No quotient by zero has entered any coordinate. -/
  defined : before.checked.normalizeWithBounds = (after.checked, some box.checked)
  nodes : SameNodes before after
  velocity : forall slot,
    (after.node? slot).map Node.velocity = (before.node? slot).map Node.velocity

theorem unitizes_normalize {arena : Arena K} {box : BoundingBox K} (h : arena.bounds? = some box)
    (hx : box.extent.x ≠ 0) (hy : box.extent.y ≠ 0) : Unitizes box arena arena.normalize := by
  have htight := bounds?_eq_some_iff.mp h
  have hunit : box.unitBox.Tight arena.normalize.positions := by
    rw [positions_normalize h]
    exact htight.rescale hx hy
  constructor
  case bounds =>
    exact bounds?_eq_some_iff.mpr hunit
  case tight =>
    exact hunit
  case order =>
    intro axis hextent s t a b a' b' ha hb ha' hb'
    rw [node?_normalize h, ha] at ha'
    rw [node?_normalize h, hb] at hb'
    cases ha'
    cases hb'
    have hpos := lt_of_le_of_ne (htight.extent_nonneg axis) (Ne.symm hextent)
    rw [BoundingBox.on_rescale, BoundingBox.on_rescale]
    exact (BoundingBox.strictMono_rescaleOn hpos).lt_iff_lt.symm
  case defined =>
    exact normalizeWithBounds_checked h hx hy
  case nodes =>
    exact sameNodes_normalize arena
  case velocity =>
    intro slot
    rw [node?_normalize h, Option.map_map]
    rfl

theorem bounds?_of_nodes_eq_nil {arena : Arena K} (h : arena.nodes = []) :
    arena.bounds? = none := by
  unfold bounds? positions
  rw [h]
  rfl

theorem exists_bounds?_of_nodes_ne_nil {arena : Arena K} (h : arena.nodes ≠ []) :
    exists box, arena.bounds? = some box := by
  unfold bounds? positions
  cases hnodes : arena.nodes with
  | nil =>
      exact absurd hnodes h
  | cons first rest =>
      exact ⟨_, rfl⟩

/-- Without a node nothing happens. Otherwise the tight box around the nodes is told, and if it
has an extent on the first two axes, the nodes fill the unit box afterwards. -/
theorem normalizeWithBounds_unitizes (arena : Arena K) :
    (arena.nodes = [] -> arena.normalizeWithBounds = (arena, none)) ∧
      (arena.nodes ≠ [] ->
        exists box, arena.normalizeWithBounds = (arena.normalize, some box) ∧
          box.Tight arena.positions ∧
          (box.extent.x ≠ 0 -> box.extent.y ≠ 0 -> Unitizes box arena arena.normalize)) := by
  constructor
  · intro hnone
    unfold normalizeWithBounds
    rw [bounds?_of_nodes_eq_nil hnone]
  · intro hsome
    rcases exists_bounds?_of_nodes_ne_nil hsome with ⟨box, hbox⟩
    refine ⟨box, ?_, bounds?_eq_some_iff.mp hbox, unitizes_normalize hbox⟩
    rw [normalizeWithBounds_eq, hbox]

noncomputable def corners : Arena Real where
  slots := #[some (.atRest ⟨1⟩ ⟨4, 0, 0⟩ .empty), none, some (.atRest ⟨2⟩ ⟨0, 2, 0⟩ .empty)]
  vacant := [1]
  links := []

theorem normalizeWithBounds_unitizes_corners :
    exists box : BoundingBox Real, corners.normalizeWithBounds = (corners.normalize, some box) ∧
      box.extent = ⟨4, 2, 0⟩ ∧ Unitizes box corners corners.normalize := by
  rcases (normalizeWithBounds_unitizes corners).2 (List.cons_ne_nil _ _) with
    ⟨box, hbox, htight, hunit⟩
  have hbounds : corners.bounds? = some ⟨⟨0, 0, 0⟩, ⟨4, 2, 0⟩⟩ := by
    change some (BoundingBox.extend _ _) = _
    simp [BoundingBox.extend, BoundingBox.ofPoint, Node.atRest, Vec3.min, Vec3.max, Scalar.min,
      Scalar.max]
  have hends : box = ⟨⟨0, 0, 0⟩, ⟨4, 2, 0⟩⟩ := htight.unique (bounds?_eq_some_iff.mp hbounds)
  have hextent : box.extent = ⟨4, 2, 0⟩ := by
    rw [hends]
    change (⟨4 - 0, 2 - 0, 0 - 0⟩ : Vec3 Real) = ⟨4, 2, 0⟩
    norm_num
  refine ⟨box, hbox, hextent, hunit ?_ ?_⟩
  · rw [hextent]
    norm_num
  · rw [hextent]
    norm_num

end Arena
end GraphLayout
