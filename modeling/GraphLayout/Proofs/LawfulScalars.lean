import Mathlib.Algebra.BigOperators.Group.List.Basic
import Mathlib.Algebra.Field.Defs
import Mathlib.Algebra.Field.Basic
import GraphLayout.Forces
import GraphLayout.Proofs.TightBox

/-!
# Scalars that add without rounding

Where sums do not depend on the order of their terms and a sign moves freely through products
and quotients, the vectors over the scalars form a commutative group. Every field is such a
type of scalars, whatever its roots, its functions of an angle, its extremes and its tests of
order are.
-/

namespace GraphLayout

class LawfulScalar (α : Type) [Scalar α] : Prop where
  add_assoc (a b c : α) : a + b + c = a + (b + c)
  add_comm (a b : α) : a + b = b + a
  zero_add (a : α) : 0 + a = a
  neg_add_cancel (a : α) : -a + a = 0
  sub_eq_add_neg (a b : α) : a - b = a + -b
  neg_mul (a b : α) : -a * b = -(a * b)
  neg_mul_neg (a b : α) : -a * -b = a * b
  neg_div (a b : α) : -a / b = -(a / b)

/-!
# Fields
-/

class FieldScalar (K : Type) extends Field K, BEq K, LawfulBEq K where
  sqrt : K -> K
  sin : K -> K
  cos : K -> K
  min : K -> K -> K
  max : K -> K -> K
  ble : K -> K -> Bool

instance {K : Type} [FieldScalar K] : Scalar K where
  sqrt := FieldScalar.sqrt
  sin := FieldScalar.sin
  cos := FieldScalar.cos
  min := FieldScalar.min
  max := FieldScalar.max
  ble := FieldScalar.ble

instance {K : Type} [FieldScalar K] : LawfulScalar K where
  add_assoc := add_assoc
  add_comm := add_comm
  zero_add := zero_add
  neg_add_cancel := neg_add_cancel
  sub_eq_add_neg := sub_eq_add_neg
  neg_mul := neg_mul
  neg_mul_neg := neg_mul_neg
  neg_div := fun a b => neg_div b a

instance {K : Type} [ExactScalar K] : LawfulScalar K where
  add_assoc := add_assoc
  add_comm := add_comm
  zero_add := zero_add
  neg_add_cancel := neg_add_cancel
  sub_eq_add_neg := sub_eq_add_neg
  neg_mul := neg_mul
  neg_mul_neg := neg_mul_neg
  neg_div := fun a b => neg_div b a

variable {α : Type} [Scalar α]

/-!
# Vectors
-/

namespace Vec3

theorem on_add (axis : Axis) (a b : Vec3 α) : (a + b).on axis = a.on axis + b.on axis := by
  cases axis <;> rfl

theorem on_neg (axis : Axis) (a : Vec3 α) : (-a).on axis = -a.on axis := by
  cases axis <;> rfl

theorem on_mul (axis : Axis) (a : Vec3 α) (s : α) : (a * s).on axis = a.on axis * s := by
  cases axis <;> rfl

theorem on_div (axis : Axis) (a : Vec3 α) (s : α) : (a / s).on axis = a.on axis / s := by
  cases axis <;> rfl

instance : Zero (Vec3 α) where
  zero := zero

theorem on_zero (axis : Axis) : (0 : Vec3 α).on axis = 0 := by
  cases axis <;> rfl

variable [LawfulScalar α]

instance : AddCommGroup (Vec3 α) where
  nsmul := nsmulRec
  zsmul := zsmulRec
  add_assoc a b c := ext_on fun axis => by
    rw [on_add, on_add, on_add, on_add, LawfulScalar.add_assoc]
  add_comm a b := ext_on fun axis => by
    rw [on_add, on_add, LawfulScalar.add_comm]
  zero_add a := ext_on fun axis => by
    rw [on_add, on_zero, LawfulScalar.zero_add]
  add_zero a := ext_on fun axis => by
    rw [on_add, on_zero, LawfulScalar.add_comm, LawfulScalar.zero_add]
  neg_add_cancel a := ext_on fun axis => by
    rw [on_add, on_neg, on_zero, LawfulScalar.neg_add_cancel]
  sub_eq_add_neg a b := ext_on fun axis => by
    rw [on_add, on_neg, ← LawfulScalar.sub_eq_add_neg]
    cases axis <;> rfl

theorem neg_mul (a : Vec3 α) (s : α) : -a * s = -(a * s) := by
  apply ext_on
  intro axis
  rw [on_mul, on_neg, on_neg, on_mul, LawfulScalar.neg_mul]

theorem neg_div (a : Vec3 α) (s : α) : -a / s = -(a / s) := by
  apply ext_on
  intro axis
  rw [on_div, on_neg, on_neg, on_div, LawfulScalar.neg_div]

theorem lengthSquared_neg (a : Vec3 α) : (-a).lengthSquared = a.lengthSquared := by
  change -a.x * -a.x + -a.y * -a.y + -a.z * -a.z = a.x * a.x + a.y * a.y + a.z * a.z
  rw [LawfulScalar.neg_mul_neg, LawfulScalar.neg_mul_neg, LawfulScalar.neg_mul_neg]

theorem length_neg (a : Vec3 α) : (-a).length = a.length := by
  unfold length
  rw [lengthSquared_neg]

end Vec3

namespace LawfulScalar

variable [LawfulScalar α]

theorem neg_zero : -(0 : α) = 0 := by
  have hcancel := neg_add_cancel (0 : α)
  rw [add_comm, zero_add] at hcancel
  exact hcancel

end LawfulScalar

theorem Dimensions.activeAxes_neg [LawfulScalar α] (dimensions : Dimensions) (a : Vec3 α) :
    dimensions.activeAxes (-a) = -dimensions.activeAxes a := by
  unfold activeAxes
  split
  · change (⟨-a.x, -a.y, 0⟩ : Vec3 α) = ⟨-a.x, -a.y, -0⟩
    rw [LawfulScalar.neg_zero]
  · rfl

/-!
# Sums of scalars
-/

theorem Scalar.sum_perm [LawfulScalar α] {xs ys : List α} (h : xs.Perm ys) :
    sum xs = sum ys := by
  apply h.foldl_eq'
  intro x _ y _ acc
  rw [LawfulScalar.add_assoc, LawfulScalar.add_comm x, LawfulScalar.add_assoc]

end GraphLayout
