import GraphLayout.Proofs.Exact
import Mathlib.Data.Set.Basic

/-!
# Scalars that vanish

A set of scalars around zero that sums, differences and extremes do not leave, and products and
quotients neither if their first operand is in it. Among the binary64 numbers the two zeros are
not such a set, as a quotient of zeros is no number; together with what is no number they are.
-/

namespace GraphLayout

structure Scalar.Vanishing {α : Type} [Scalar α] (zeros : Set α) : Prop where
  zero : (0 : α) ∈ zeros
  add : forall {a b : α}, a ∈ zeros -> b ∈ zeros -> a + b ∈ zeros
  sub : forall {a b : α}, a ∈ zeros -> b ∈ zeros -> a - b ∈ zeros
  min : forall {a b : α}, a ∈ zeros -> b ∈ zeros -> Scalar.min a b ∈ zeros
  max : forall {a b : α}, a ∈ zeros -> b ∈ zeros -> Scalar.max a b ∈ zeros
  mul : forall {a : α}, a ∈ zeros -> forall b : α, a * b ∈ zeros
  div : forall {a : α}, a ∈ zeros -> forall b : α, a / b ∈ zeros

/-!
# Binary64 numbers
-/

namespace ZeroFloat

open Float.Model (UnpackedFloat Format)
open Float.Model.UnpackedFloat (Sign)

inductive Vanishes : UnpackedFloat -> Prop where
  | zero (sign : Sign) : Vanishes (.zero sign)
  | notANumber : Vanishes .notANumber

namespace Vanishes

variable {a b : UnpackedFloat}

theorem of_zeros {op : UnpackedFloat -> UnpackedFloat -> UnpackedFloat} (ha : Vanishes a)
    (hb : Vanishes b) (hleft : op .notANumber b = .notANumber)
    (hright : op a .notANumber = .notANumber)
    (hzeros : forall s t, Vanishes (op (.zero s) (.zero t))) : Vanishes (op a b) := by
  cases ha with
  | notANumber =>
      rw [hleft]
      exact notANumber
  | zero s =>
      cases hb with
      | notANumber =>
          rw [hright]
          exact notANumber
      | zero t =>
          exact hzeros s t

theorem add (ha : Vanishes a) (hb : Vanishes b) : Vanishes (.add Format.binary64 a b) := by
  apply ha.of_zeros hb rfl (by cases a <;> rfl)
  intro s t
  cases s <;> cases t <;> exact zero _

theorem sub (ha : Vanishes a) (hb : Vanishes b) : Vanishes (.sub Format.binary64 a b) := by
  apply ha.of_zeros hb rfl (by cases a <;> rfl)
  intro s t
  cases s <;> cases t <;> exact zero _

theorem mul (ha : Vanishes a) (b : UnpackedFloat) : Vanishes (.mul Format.binary64 a b) := by
  cases ha with
  | notANumber =>
      exact notANumber
  | zero s =>
      cases b with
      | notANumber => exact notANumber
      | infinity t => exact notANumber
      | zero t => exact zero _
      | finite t mantissa exponent hpos => exact zero _

theorem div (ha : Vanishes a) (b : UnpackedFloat) : Vanishes (.div Format.binary64 a b) := by
  cases ha with
  | notANumber =>
      exact notANumber
  | zero s =>
      cases b with
      | notANumber => exact notANumber
      | infinity t => exact zero _
      | zero t => exact notANumber
      | finite t mantissa exponent hpos => exact zero _

/-- Packing loses neither the sign of a zero nor that something is no number. -/
theorem unpack_pack (ha : Vanishes a) : Vanishes (Float.Model.pack a).unpack := by
  cases ha with
  | notANumber =>
      exact notANumber
  | zero s =>
      cases s with
      | negative => exact zero .negative
      | positive => exact zero .positive

end Vanishes

/-- The binary64 numbers that equal zero, whatever their sign, and what is no number. -/
def zeros : Set Float :=
  {x | (x == 0.0) = true ∨ x.isNaN = true}

theorem mem_zeros {x : Float} : x ∈ zeros <-> Vanishes x.toModel.unpack := by
  change UnpackedFloat.beq x.toModel.unpack (.zero .positive) = true ∨
    x.toModel.unpack.isNaN = true <-> _
  generalize x.toModel.unpack = u
  constructor
  · intro h
    cases u with
    | notANumber =>
        exact Vanishes.notANumber
    | zero s =>
        exact Vanishes.zero s
    | infinity s =>
        cases s <;> rcases h with h | h <;> cases h
    | finite s mantissa exponent hpos =>
        cases s <;> rcases h with h | h <;> cases h
  · intro h
    cases h with
    | notANumber =>
        exact Or.inr rfl
    | zero s =>
        exact Or.inl rfl

theorem pick_mem {S : Set Float} {a b : Float} (ha : a ∈ S) (hb : b ∈ S) {p q r : Prop}
    [Decidable p] [Decidable q] [Decidable r] :
    (if p then b else if q then a else if r then b else a) ∈ S := by
  split
  · exact hb
  · split
    · exact ha
    · split
      · exact hb
      · exact ha

end ZeroFloat

theorem vanishing_floats : Scalar.Vanishing ZeroFloat.zeros where
  zero := ZeroFloat.mem_zeros.mpr (.zero .positive)
  add ha hb := by
    rw [ZeroFloat.mem_zeros] at ha hb ⊢
    exact (ha.add hb).unpack_pack
  sub ha hb := by
    rw [ZeroFloat.mem_zeros] at ha hb ⊢
    exact (ha.sub hb).unpack_pack
  min ha hb := ZeroFloat.pick_mem ha hb
  max ha hb := ZeroFloat.pick_mem ha hb
  mul ha b := by
    rw [ZeroFloat.mem_zeros] at ha ⊢
    exact (ha.mul b.toModel.unpack).unpack_pack
  div ha b := by
    rw [ZeroFloat.mem_zeros] at ha ⊢
    exact (ha.div b.toModel.unpack).unpack_pack

/-!
# Exact arithmetic
-/

theorem vanishing_exact {K : Type} [ExactScalar K] : Scalar.Vanishing ({0} : Set K) where
  zero := rfl
  add ha hb := by
    rw [Set.mem_singleton_iff] at ha hb ⊢
    rw [ha, hb]
    exact add_zero 0
  sub ha hb := by
    rw [Set.mem_singleton_iff] at ha hb ⊢
    rw [ha, hb]
    exact sub_zero 0
  min ha hb := by
    rw [Set.mem_singleton_iff] at ha hb ⊢
    rw [ha, hb]
    exact min_self 0
  max ha hb := by
    rw [Set.mem_singleton_iff] at ha hb ⊢
    rw [ha, hb]
    exact max_self 0
  mul ha b := by
    rw [Set.mem_singleton_iff] at ha ⊢
    rw [ha]
    exact zero_mul b
  div ha b := by
    rw [Set.mem_singleton_iff] at ha ⊢
    rw [ha]
    exact zero_div b

end GraphLayout
