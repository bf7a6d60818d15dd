import GraphLayout.Proofs.UnitBox

/-!
# Place and size of a layout

The rescaling of a layout in exact arithmetic forgets where the layout was and how large it
was, on every axis by itself. A layout that is moved and stretched beforehand comes out as the
same layout, and one that has been rescaled already stays as it is.
-/

namespace GraphLayout

variable {K : Type} [ExactScalar K]

/-- A stretch of every axis by a positive factor, followed by a move. -/
structure Reframing (K : Type) [ExactScalar K] where
  factor : Vec3 K
  shift : Vec3 K
  factor_pos : forall axis, 0 < factor.on axis

namespace Reframing

def apply (frame : Reframing K) (point : Vec3 K) : Vec3 K :=
  point.scaleBy frame.factor + frame.shift

variable (frame : Reframing K)

theorem on_apply (axis : Axis) (point : Vec3 K) :
    (frame.apply point).on axis = point.on axis * frame.factor.on axis + frame.shift.on axis := by
  cases axis <;> rfl

theorem monotone_on_apply (axis : Axis) :
    Monotone fun c : K => c * frame.factor.on axis + frame.shift.on axis := by
  intro a b hle
  have hstretched := mul_le_mul_of_nonneg_right hle (le_of_lt (frame.factor_pos axis))
  exact add_le_add_left hstretched (frame.shift.on axis)

end Reframing

/-!
# Boxes
-/

namespace BoundingBox

variable {box : BoundingBox K} {points : List (Vec3 K)}

def reframe (frame : Reframing K) (box : BoundingBox K) : BoundingBox K :=
  ⟨frame.apply box.min, frame.apply box.max⟩

theorem Tight.reframe (h : box.Tight points) (frame : Reframing K) :
    (box.reframe frame).Tight (points.map frame.apply) :=
  h.map frame.on_apply frame.monotone_on_apply

theorem on_extent_reframe (frame : Reframing K) (box : BoundingBox K) (axis : Axis) :
    (box.reframe frame).extent.on axis = box.extent.on axis * frame.factor.on axis := by
  rw [on_extent, on_extent]
  unfold reframe
  rw [frame.on_apply, frame.on_apply]
  ring

/-- The shift drops out against the center of the box, and the factor against its extent. -/
theorem rescaleOn_reframe (frame : Reframing K) (box : BoundingBox K) (axis : Axis) (c : K) :
    (box.reframe frame).rescaleOn axis (c * frame.factor.on axis + frame.shift.on axis) =
      box.rescaleOn axis c := by
  have hfactor : frame.factor.on axis ≠ 0 := ne_of_gt (frame.factor_pos axis)
  have hcenter : c * frame.factor.on axis + frame.shift.on axis -
        ((box.reframe frame).min.on axis + (box.reframe frame).max.on axis) / 2 =
      (c - (box.min.on axis + box.max.on axis) / 2) * frame.factor.on axis := by
    unfold reframe
    rw [frame.on_apply, frame.on_apply]
    ring
  unfold rescaleOn
  rw [hcenter, on_extent_reframe, mul_one_div, mul_one_div, mul_div_mul_right _ _ hfactor]

theorem rescale_reframe (frame : Reframing K) (box : BoundingBox K) (point : Vec3 K) :
    (box.reframe frame).rescale (frame.apply point) = box.rescale point := by
  apply Vec3.ext_on
  intro axis
  rw [on_rescale, on_rescale, frame.on_apply, rescaleOn_reframe]

def rescaled (box : BoundingBox K) : BoundingBox K :=
  ⟨box.rescale box.min, box.rescale box.max⟩

theorem Tight.rescaled (h : box.Tight points) : box.rescaled.Tight (points.map box.rescale) :=
  h.map box.on_rescale fun axis => monotone_rescaleOn (h.extent_nonneg axis)

theorem on_extent_rescaled (box : BoundingBox K) (axis : Axis) :
    box.rescaled.extent.on axis = if box.extent.on axis = 0 then 0 else 1 := by
  rw [on_extent]
  unfold BoundingBox.rescaled
  rw [on_rescale, on_rescale, rescaleOn_max, rescaleOn_min]
  split <;> norm_num

theorem rescaleOn_rescaled (box : BoundingBox K) (axis : Axis) (c : K) :
    box.rescaled.rescaleOn axis (box.rescaleOn axis c) = box.rescaleOn axis c := by
  have hcenter : box.rescaled.min.on axis + box.rescaled.max.on axis = 0 := by
    unfold BoundingBox.rescaled
    rw [on_rescale, on_rescale, rescaleOn_max, rescaleOn_min]
    split <;> norm_num
  by_cases hflat : box.extent.on axis = 0
  · have hextent : box.rescaled.extent.on axis = 0 := by
      rw [on_extent_rescaled, if_pos hflat]
    rw [rescaleOn_of_flat hextent, rescaleOn_of_flat hflat]
  · have hextent : box.rescaled.extent.on axis = 1 := by
      rw [on_extent_rescaled, if_neg hflat]
    have hkept : forall d : K, box.rescaled.rescaleOn axis d = d := by
      intro d
      unfold rescaleOn
      rw [hcenter, hextent, zero_div, sub_zero, div_one, mul_one]
    exact hkept _

theorem rescale_rescaled (box : BoundingBox K) (point : Vec3 K) :
    box.rescaled.rescale (box.rescale point) = box.rescale point := by
  apply Vec3.ext_on
  intro axis
  rw [on_rescale, on_rescale, rescaleOn_rescaled]

end BoundingBox

/-!
# Arenas
-/

namespace Arena

def reframe (frame : Reframing K) (arena : Arena K) : Arena K :=
  arena.map fun node => { node with position := frame.apply node.position }

omit [ExactScalar K] in
theorem map_map (arena : Arena K) (f g : Node K -> Node K) :
    (arena.map f).map g = arena.map fun node => g (f node) := by
  unfold map
  rw [Array.map_map]
  congr 2
  funext entry
  exact Option.map_map g f entry

theorem positions_reframe (frame : Reframing K) (arena : Arena K) :
    (arena.reframe frame).positions = arena.positions.map frame.apply := by
  unfold positions reframe
  rw [nodes_map, List.map_map, List.map_map]
  rfl

theorem bounds?_reframe (frame : Reframing K) {arena : Arena K} {box : BoundingBox K}
    (h : arena.bounds? = some box) :
    (arena.reframe frame).bounds? = some (box.reframe frame) := by
  rw [bounds?_eq_some_iff, positions_reframe]
  exact (bounds?_eq_some_iff.mp h).reframe frame

theorem bounds?_normalize {arena : Arena K} {box : BoundingBox K} (h : arena.bounds? = some box) :
    arena.normalize.bounds? = some box.rescaled := by
  rw [bounds?_eq_some_iff, positions_normalize h]
  exact (bounds?_eq_some_iff.mp h).rescaled

theorem normalize_of_bounds? {arena : Arena K} {box : BoundingBox K}
    (h : arena.bounds? = some box) :
    arena.normalize =
      arena.map fun node => { node with position := box.rescale node.position } := by
  unfold normalize
  rw [h]

theorem normalize_of_nodes_eq_nil {arena : Arena K} (h : arena.nodes = []) :
    arena.normalize = arena := by
  unfold normalize
  rw [bounds?_of_nodes_eq_nil h]

theorem normalize_reframe (frame : Reframing K) {arena : Arena K} {box : BoundingBox K}
    (hbox : arena.bounds? = some box) : (arena.reframe frame).normalize = arena.normalize := by
  rw [normalize_of_bounds? (bounds?_reframe frame hbox), normalize_of_bounds? hbox]
  unfold reframe
  rw [map_map]
  congr 1
  funext node
  simp only [BoundingBox.rescale_reframe]

theorem normalize_normalize (arena : Arena K) : arena.normalize.normalize = arena.normalize := by
  by_cases hnone : arena.nodes = []
  · rw [normalize_of_nodes_eq_nil hnone, normalize_of_nodes_eq_nil hnone]
  · rcases exists_bounds?_of_nodes_ne_nil hnone with ⟨box, hbox⟩
    rw [normalize_of_bounds? (bounds?_normalize hbox), normalize_of_bounds? hbox, map_map]
    congr 1
    funext node
    simp only [BoundingBox.rescale_rescaled]

/-!
# Quotients by zero

With an extent on the first two axes no rescaling meets a quotient by zero, neither before nor
after the layout is moved and stretched.
-/

theorem normalize_checked {arena : Arena K} {box : BoundingBox K} (hbox : arena.bounds? = some box)
    (hx : box.extent.x ≠ 0) (hy : box.extent.y ≠ 0) :
    arena.checked.normalize = arena.normalize.checked := by
  have hboth := normalizeWithBounds_checked hbox hx hy
  rw [normalizeWithBounds_eq] at hboth
  exact congrArg Prod.fst hboth

theorem extent_reframe_ne_zero (frame : Reframing K) {box : BoundingBox K} (axis : Axis)
    (h : box.extent.on axis ≠ 0) : (box.reframe frame).extent.on axis ≠ 0 := by
  rw [BoundingBox.on_extent_reframe]
  exact mul_ne_zero h (ne_of_gt (frame.factor_pos axis))

theorem extent_rescaled_ne_zero {box : BoundingBox K} (axis : Axis)
    (h : box.extent.on axis ≠ 0) : box.rescaled.extent.on axis ≠ 0 := by
  rw [BoundingBox.on_extent_rescaled, if_neg h]
  exact one_ne_zero

/-- The rescaling gives the same arena after any move and stretch of the axes, and nothing more
happens when it is done twice. The last two statements say so where a quotient by zero is none. -/
theorem normalize_forgets_frame (frame : Reframing K) {arena : Arena K} {box : BoundingBox K}
    (hbox : arena.bounds? = some box) (hx : box.extent.x ≠ 0) (hy : box.extent.y ≠ 0) :
    (arena.reframe frame).normalize = arena.normalize ∧
      arena.normalize.normalize = arena.normalize ∧
      (arena.reframe frame).checked.normalize = arena.normalize.checked ∧
      arena.normalize.checked.normalize = arena.normalize.checked := by
  have hreframed := normalize_reframe frame hbox
  have htwice := normalize_normalize arena
  refine ⟨hreframed, htwice, ?_, ?_⟩
  · rw [normalize_checked (bounds?_reframe frame hbox) (extent_reframe_ne_zero frame .x hx)
      (extent_reframe_ne_zero frame .y hy), hreframed]
  · rw [normalize_checked (bounds?_normalize hbox) (extent_rescaled_ne_zero .x hx)
      (extent_rescaled_ne_zero .y hy), htwice]

def skew : Reframing K where
  factor := ⟨3, 1 / 5, 7⟩
  shift := ⟨-7, 1, 3⟩
  factor_pos axis :=
    match axis with
    | .x => zero_lt_three
    | .y => one_div_pos.mpr Nat.ofNat_pos
    | .z => Nat.ofNat_pos

theorem normalize_forgets_frame_corners :
    exists box : BoundingBox Real, corners.bounds? = some box ∧ box.extent = ⟨4, 2, 0⟩ ∧
      (corners.reframe skew).normalize = corners.normalize ∧
      corners.normalize.normalize = corners.normalize := by
  have hbounds : corners.bounds? = some ⟨⟨0, 0, 0⟩, ⟨4, 2, 0⟩⟩ := by
    change some (BoundingBox.extend _ _) = _
    simp [BoundingBox.extend, BoundingBox.ofPoint, Node.atRest, Vec3.min, Vec3.max, Scalar.min,
      Scalar.max]
  have hextent : (⟨⟨0, 0, 0⟩, ⟨4, 2, 0⟩⟩ : BoundingBox Real).extent = ⟨4, 2, 0⟩ := by
    change (⟨4 - 0, 2 - 0, 0 - 0⟩ : Vec3 Real) = ⟨4, 2, 0⟩
    norm_num
  have hx : (⟨⟨0, 0, 0⟩, ⟨4, 2, 0⟩⟩ : BoundingBox Real).extent.x ≠ 0 := by
    rw [hextent]
    norm_num
  have hy : (⟨⟨0, 0, 0⟩, ⟨4, 2, 0⟩⟩ : BoundingBox Real).extent.y ≠ 0 := by
    rw [hextent]
    norm_num
  rcases normalize_forgets_frame skew hbounds hx hy with ⟨hreframed, htwice, _⟩
  exact ⟨_, hbounds, hextent, hreframed, htwice⟩

end Arena
end GraphLayout
