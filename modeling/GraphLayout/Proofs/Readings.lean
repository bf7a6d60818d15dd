import GraphLayout.Scalar
import Mathlib.Data.Option.NAry
import Mathlib.Data.Prod.Lex

/-!
# Values of scalars

A reading gives a scalar its value in a linear order, or tells that it has none. The lesser and
the greater of two scalars go by the values and pass over a scalar without one; nothing is asked
of the other operations. Two scalars with the same value need not be the same, as the two zeros
among the binary64 numbers are not.
-/

namespace GraphLayout

structure Scalar.Reading (α L : Type) [Scalar α] [LinearOrder L] where
  value? : α -> Option L
  value?_min (a b : α) : value? (Scalar.min a b) = Option.merge Min.min (value? a) (value? b)
  value?_max (a b : α) : value? (Scalar.max a b) = Option.merge Max.max (value? a) (value? b)

/-!
# Binary64 numbers
-/

namespace FloatOrder

open Float.Model (UnpackedFloat)
open Float.Model.UnpackedFloat (Sign)

/-- The first part tells the infinities, the finite numbers of either sign and the zeros apart. -/
abbrev Rank : Type := Int ×ₗ Int ×ₗ Int

def rank? : UnpackedFloat -> Option Rank
  | .notANumber => none
  | .infinity sign => some (toLex (sign.apply 2, toLex (0, 0)))
  | .zero _ => some (toLex (0, toLex (0, 0)))
  | .finite sign mantissa exponent _ =>
      some (toLex (sign.apply 1, toLex (sign.apply exponent, sign.apply mantissa)))

theorem compare_neg (a b : Int) : compare (-a) (-b) = (compare a b).swap := by
  rw [Int.compare_swap]
  simp only [Int.compare_eq_ite_lt, Int.neg_lt_neg_iff]

theorem compare_natCast (m n : Nat) : compare (m : Int) (n : Int) = compare m n := by
  simp only [Int.compare_eq_ite_lt, Nat.compare_eq_ite_lt, Int.ofNat_lt]

theorem compare_eq_map₂ (a b : UnpackedFloat) :
    a.compare b = Option.map₂ compare (rank? a) (rank? b) := by
  cases a with
  | notANumber =>
      cases b <;> rfl
  | infinity s =>
      cases b with
      | notANumber => cases s <;> rfl
      | infinity t => cases s <;> cases t <;> rfl
      | zero t => cases s <;> rfl
      | finite t n f hn => cases s <;> cases t <;> rfl
  | zero s =>
      cases b with
      | notANumber => rfl
      | infinity t => cases t <;> rfl
      | zero t => rfl
      | finite t n f hn => cases t <;> rfl
  | finite s m e hm =>
      cases b with
      | notANumber => rfl
      | infinity t => cases s <;> cases t <;> rfl
      | zero t => cases s <;> rfl
      | finite t n f hn =>
          cases s with
          | negative =>
              cases t with
              | negative =>
                  change some ((compare e f).then (compare m n)).swap =
                    some ((compare (-e) (-f)).then (compare (-(m : Int)) (-(n : Int))))
                  rw [compare_neg, compare_neg, compare_natCast, Ordering.swap_then]
              | positive => rfl
          | positive =>
              cases t with
              | negative => rfl
              | positive =>
                  change some ((compare e f).then (compare m n)) =
                    some ((compare e f).then (compare (m : Int) (n : Int)))
                  rw [compare_natCast]

def value? (x : Float) : Option Rank :=
  rank? x.toModel.unpack

theorem value?_eq_none_iff {x : Float} : value? x = none <-> x.isNaN = true := by
  change rank? x.toModel.unpack = none <-> x.toModel.unpack.isNaN = true
  cases x.toModel.unpack with
  | notANumber => exact iff_of_true rfl rfl
  | infinity s => exact iff_of_false (Option.some_ne_none _) Bool.false_ne_true
  | zero s => exact iff_of_false (Option.some_ne_none _) Bool.false_ne_true
  | finite s m e hm => exact iff_of_false (Option.some_ne_none _) Bool.false_ne_true

section Values

variable {x y : Float} {v w : Rank}

theorem not_isNaN_of_value? (hx : value? x = some v) : ¬x.isNaN = true := by
  rw [← value?_eq_none_iff, hx]
  exact Option.some_ne_none v

theorem compare_of_value? (hx : value? x = some v) (hy : value? y = some w) :
    x.toModel.unpack.compare y.toModel.unpack = some (compare v w) := by
  unfold value? at hx hy
  rw [compare_eq_map₂, hx, hy]
  rfl

theorem lt_iff_of_value? (hx : value? x = some v) (hy : value? y = some w) :
    x < y <-> v < w := by
  change decide (x.toModel < y.toModel) = true <-> v < w
  rw [decide_eq_true_iff]
  change (x.toModel.unpack.compare y.toModel.unpack == some .lt) = true <-> v < w
  rw [compare_of_value? hx hy, beq_iff_eq, Option.some_inj, compare_lt_iff_lt]

end Values

/-- The lesser and the greater of two numbers differ in the last of their three tests. -/
theorem value?_pick {a b : Float} {op : Rank -> Rank -> Rank} {swapped : Prop} [Decidable swapped]
    (hop : forall {v w}, value? a = some v -> value? b = some w ->
      op v w = if swapped then w else v) :
    value? (if a.isNaN then b else if b.isNaN then a else if swapped then b else a) =
      Option.merge op (value? a) (value? b) := by
  cases ha : value? a with
  | none =>
      rw [if_pos (value?_eq_none_iff.mp ha), Option.merge_none_left]
  | some v =>
      rw [if_neg (not_isNaN_of_value? ha)]
      cases hb : value? b with
      | none =>
          rw [if_pos (value?_eq_none_iff.mp hb), ha, Option.merge_none_right]
      | some w =>
          rw [if_neg (not_isNaN_of_value? hb), Option.merge_some_some, hop ha hb]
          split
          · exact hb
          · exact ha

end FloatOrder

def Scalar.Reading.float : Scalar.Reading Float FloatOrder.Rank where
  value? := FloatOrder.value?
  value?_min a b := by
    apply FloatOrder.value?_pick
    intro v w ha hb
    rw [min_comm, min_def_lt]
    simp only [FloatOrder.lt_iff_of_value? hb ha]
  value?_max a b := by
    apply FloatOrder.value?_pick
    intro v w ha hb
    rw [max_def_lt]
    simp only [FloatOrder.lt_iff_of_value? ha hb]

example : (Scalar.min 0.0 (-0.0) : Float) = 0.0 ∧ (Scalar.min (-0.0) 0.0 : Float) = -0.0 ∧
    Scalar.Reading.float.value? 0.0 = Scalar.Reading.float.value? (-0.0) :=
  ⟨rfl, rfl, rfl⟩

end GraphLayout
