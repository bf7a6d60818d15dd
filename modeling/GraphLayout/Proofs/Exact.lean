import Mathlib.Analysis.Complex.Trigonometric
import Mathlib.Analysis.Real.Sqrt
import Mathlib.Data.Rat.Cast.OfScientific
import Mathlib.Tactic.NormNum.OfScientific
import GraphLayout.Scalar

/-!
# Exact arithmetic

Scalars that form an ordered field, with every operation of a layout as the operation of the
field. Whatever is said of them is said without rounding. A root and the functions of an angle
come with them, and what a statement needs of those it asks for. The real numbers are such scalars.
-/

namespace GraphLayout

class ExactScalar (K : Type) extends Field K, LinearOrder K, IsStrictOrderedRing K where
  sqrt : K -> K
  sin : K -> K
  cos : K -> K

noncomputable instance : ExactScalar Real where
  sqrt := Real.sqrt
  sin := Real.sin
  cos := Real.cos

instance {K : Type} [ExactScalar K] : Scalar K where
  sqrt := ExactScalar.sqrt
  sin := ExactScalar.sin
  cos := ExactScalar.cos
  min := Min.min
  max := Max.max
  ble a b := decide (a ≤ b)

namespace ExactScalar

variable {K : Type} [ExactScalar K]

/-!
# Literals

The literals of a layout are those of its scalars.
-/

theorem literal (digits places : Nat) :
    (Scalar.toOfScientific.ofScientific digits true places : K) = digits / 10 ^ places := by
  rw [← Rat.cast_ofScientific]
  change ((Rat.ofScientific digits true places : Rat) : K) = _
  rw [Rat.ofScientific_true_def, Rat.mkRat_eq_div]
  push_cast
  rfl

end ExactScalar
end GraphLayout
