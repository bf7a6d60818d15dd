import GraphLayout.Proofs.Exact
import GraphLayout.Proofs.ReadBounds

/-!
# Tight boxes

In exact arithmetic the box around a list of points is tight: on every axis its ends are the
least and the greatest coordinate of a point, so that each of the six is attained. It is the case
of a reading in which no scalar is without a value.
-/

namespace GraphLayout
namespace Vec3

def coordinates {α : Type} (axis : Axis) (points : List (Vec3 α)) : Set α :=
  {c | exists point, point ∈ points ∧ point.on axis = c}

variable {K : Type} [ExactScalar K] (axis : Axis) (a b : Vec3 K)

theorem on_sub : (a - b).on axis = a.on axis - b.on axis := by
  cases axis <;> rfl

theorem on_scaleBy : (a.scaleBy b).on axis = a.on axis * b.on axis := by
  cases axis <;> rfl

end Vec3

variable {K : Type} [ExactScalar K]

namespace Scalar.Reading

def ofExact : Reading K K where
  value? := some
  value?_min _ _ := rfl
  value?_max _ _ := rfl

theorem values_ofExact (axis : Axis) (points : List (Vec3 K)) :
    ofExact.values axis points = Vec3.coordinates axis points := by
  ext c
  simp [values, ofExact, Vec3.coordinates]

end Scalar.Reading

namespace BoundingBox

open Vec3 (coordinates)

/-!
# Tightness
-/

structure Tight (box : BoundingBox K) (points : List (Vec3 K)) : Prop where
  least : forall axis, IsLeast (coordinates axis points) (box.min.on axis)
  greatest : forall axis, IsGreatest (coordinates axis points) (box.max.on axis)

namespace Tight

variable {box other : BoundingBox K} {points : List (Vec3 K)}

theorem unique (h : box.Tight points) (h' : other.Tight points) : box = other := by
  have hmin : box.min = other.min := Vec3.ext_on fun axis => (h.least axis).unique (h'.least axis)
  have hmax : box.max = other.max :=
    Vec3.ext_on fun axis => (h.greatest axis).unique (h'.greatest axis)
  cases box
  cases other
  simp only at hmin hmax
  rw [hmin, hmax]

theorem ne_nil (h : box.Tight points) : points ≠ [] := by
  rintro rfl
  rcases (h.least .x).1 with ⟨point, hpoint, _⟩
  cases hpoint

theorem on_le (h : box.Tight points) (axis : Axis) : box.min.on axis ≤ box.max.on axis :=
  (h.least axis).2 (h.greatest axis).1

theorem map (h : box.Tight points) {f : Vec3 K -> Vec3 K} {g : Axis -> K -> K}
    (hf : forall axis point, (f point).on axis = g axis (point.on axis))
    (hg : forall axis, Monotone (g axis)) :
    Tight ⟨f box.min, f box.max⟩ (points.map f) := by
  have himage : forall axis,
      coordinates axis (points.map f) = g axis '' coordinates axis points := by
    intro axis
    ext c
    simp [coordinates, hf]
  constructor
  · intro axis
    rw [himage, hf]
    exact (hg axis).map_isLeast (h.least axis)
  · intro axis
    rw [himage, hf]
    exact (hg axis).map_isGreatest (h.greatest axis)

end Tight

theorem tight_of_ofList? {points : List (Vec3 K)} {box : BoundingBox K}
    (h : ofList? points = some box) : box.Tight points := by
  have htight : Scalar.Reading.ofExact.Tight box points := Scalar.Reading.tight_of_ofList? h
  constructor
  · intro axis
    rw [← Scalar.Reading.values_ofExact]
    exact htight.least axis
  · intro axis
    rw [← Scalar.Reading.values_ofExact]
    exact htight.greatest axis

theorem ofList?_eq_some_iff {points : List (Vec3 K)} {box : BoundingBox K} :
    ofList? points = some box <-> box.Tight points := by
  constructor
  · exact tight_of_ofList?
  · intro h
    cases points with
    | nil =>
        exact absurd rfl h.ne_nil
    | cons first rest =>
        have hfound : (rest.foldl BoundingBox.extend (ofPoint first)).Tight (first :: rest) :=
          tight_of_ofList? rfl
        exact congrArg some (hfound.unique h)

end BoundingBox
end GraphLayout
