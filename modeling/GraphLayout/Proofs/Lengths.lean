import GraphLayout.Proofs.LawfulScalars

/-!
# Lengths without rounding

If the root of a scalar is the nonnegative number with that square, a vector has length zero
only if every component is zero.
-/

namespace GraphLayout

class LawfulRoot (K : Type) [ExactScalar K] : Prop where
  sqrt_nonneg {q : K} : 0 ≤ q -> 0 ≤ ExactScalar.sqrt q
  mul_self_sqrt {q : K} : 0 ≤ q -> ExactScalar.sqrt q * ExactScalar.sqrt q = q

instance : LawfulRoot Real where
  sqrt_nonneg _ := Real.sqrt_nonneg _
  mul_self_sqrt := Real.mul_self_sqrt

variable {K : Type} [ExactScalar K]

theorem LawfulRoot.sqrt_eq_zero_iff [LawfulRoot K] {q : K} (h : 0 ≤ q) :
    ExactScalar.sqrt q = 0 <-> q = 0 := by
  rw [← mul_self_eq_zero, mul_self_sqrt h]

theorem LawfulRoot.sqrt_pos [LawfulRoot K] {q : K} (h : 0 < q) : 0 < ExactScalar.sqrt q :=
  lt_of_le_of_ne (sqrt_nonneg h.le) (Ne.symm (mt (sqrt_eq_zero_iff h.le).mp h.ne'))

namespace Vec3

theorem lengthSquared_nonneg (a : Vec3 K) : 0 ≤ a.lengthSquared :=
  add_nonneg (add_nonneg (mul_self_nonneg a.x) (mul_self_nonneg a.y)) (mul_self_nonneg a.z)

theorem lengthSquared_eq_zero_iff {a : Vec3 K} : a.lengthSquared = 0 <-> a = 0 := by
  constructor
  · intro h
    have hsides : 0 ≤ a.x * a.x + a.y * a.y :=
      add_nonneg (mul_self_nonneg a.x) (mul_self_nonneg a.y)
    rcases (add_eq_zero_iff_of_nonneg hsides (mul_self_nonneg a.z)).mp h with ⟨hxy, hz⟩
    rcases (add_eq_zero_iff_of_nonneg (mul_self_nonneg a.x) (mul_self_nonneg a.y)).mp hxy with
      ⟨hx, hy⟩
    apply ext_on
    intro axis
    cases axis with
    | x =>
        exact mul_self_eq_zero.mp hx
    | y =>
        exact mul_self_eq_zero.mp hy
    | z =>
        exact mul_self_eq_zero.mp hz
  · intro h
    subst h
    change (0 : K) * 0 + 0 * 0 + 0 * 0 = 0
    simp

theorem length_nonneg [LawfulRoot K] (a : Vec3 K) : 0 ≤ a.length :=
  LawfulRoot.sqrt_nonneg a.lengthSquared_nonneg

theorem length_eq_zero_iff [LawfulRoot K] {a : Vec3 K} : a.length = 0 <-> a = 0 :=
  (LawfulRoot.sqrt_eq_zero_iff a.lengthSquared_nonneg).trans lengthSquared_eq_zero_iff

end Vec3
end GraphLayout
