import GraphLayout.Layout.Simulate
import Mathlib.Order.Bounds.Basic

/-!
# Sequences of steps

A simulation is a loop of steps that goes on while the nodes move enough and the
iterations are below their greatest number. `Arena.settle` runs it by recursion on
the iterations that are left. Here its end is found in the sequence of steps, and
the loop is also given with its counter as a machine word, compared before it grows.
-/

namespace GraphLayout
namespace Arena

variable {α : Type} {step : Arena α -> Arena α × α} {arena : Arena α}

def after (step : Arena α -> Arena α × α) (arena : Arena α) : Nat -> Arena α
  | 0 => arena
  | k + 1 => (step (after step arena k)).1

def movement (step : Arena α -> Arena α × α) (arena : Arena α) (k : Nat) : α :=
  (step (after step arena k)).2

theorem after_step (step : Arena α -> Arena α × α) (arena : Arena α) (k : Nat) :
    after step (step arena).1 k = after step arena (k + 1) := by
  induction k with
  | zero =>
      rfl
  | succ k ih =>
      show (step (after step (step arena).1 k)).1 = (step (after step arena (k + 1))).1
      rw [ih]

theorem movement_step (step : Arena α -> Arena α × α) (arena : Arena α) (k : Nat) :
    movement step (step arena).1 k = movement step arena (k + 1) := by
  unfold movement
  rw [after_step]

variable [Scalar α]

/-- The numbers of steps at which a sequence may end: the movement of the following
step does not reach the threshold, or no iteration is left. -/
def Ends (step : Arena α -> Arena α × α) (threshold : α) (left : Nat) (arena : Arena α) :
    Set Nat :=
  {k | Scalar.ble threshold (movement step arena k) = false ∨ k = left}

theorem isLeast_ends_zero {threshold : α} {left : Nat}
    (h : Scalar.ble threshold (movement step arena 0) = false ∨ 0 = left) :
    IsLeast (Ends step threshold left arena) 0 :=
  ⟨h, fun k _ => Nat.zero_le k⟩

theorem isLeast_ends_succ {threshold : α} {left k : Nat}
    (hmoves : Scalar.ble threshold (movement step arena 0) = true)
    (h : IsLeast (Ends step threshold left (step arena).1) k) :
    IsLeast (Ends step threshold (left + 1) arena) (k + 1) := by
  rcases h with ⟨hend, hleast⟩
  constructor
  · cases hend with
    | inl hquiet =>
        apply Or.inl
        rw [← movement_step]
        exact hquiet
    | inr hleft =>
        exact Or.inr (congrArg (· + 1) hleft)
  · intro j hj
    cases j with
    | zero =>
        cases hj with
        | inl hquiet =>
            rw [hmoves] at hquiet
            cases hquiet
        | inr hleft =>
            cases hleft
    | succ j =>
        apply Nat.succ_le_succ
        apply hleast
        cases hj with
        | inl hquiet =>
            apply Or.inl
            rw [movement_step]
            exact hquiet
        | inr hleft =>
            exact Or.inr (Nat.succ.inj hleft)

theorem settle_spec (step : Arena α -> Arena α × α) (threshold : α) (left : Nat)
    (iterations : UInt32) (arena : Arena α) :
    exists k, IsLeast (Ends step threshold left arena) k ∧
      settle step threshold left iterations arena =
        ⟨after step arena (k + 1), iterations + UInt32.ofNat k, movement step arena k⟩ := by
  induction left generalizing iterations arena with
  | zero =>
      refine ⟨0, isLeast_ends_zero (Or.inr rfl), ?_⟩
      rw [show iterations + UInt32.ofNat 0 = iterations from UInt32.add_zero iterations]
      rfl
  | succ left ih =>
      unfold settle
      cases hmoves : Scalar.ble threshold (step arena).2 with
      | false =>
          refine ⟨0, isLeast_ends_zero (Or.inl hmoves), ?_⟩
          simp only [hmoves, Bool.false_eq_true, if_false]
          rw [show iterations + UInt32.ofNat 0 = iterations from UInt32.add_zero iterations]
          rfl
      | true =>
          rcases ih (iterations + 1) (step arena).1 with ⟨k, hleast, hrun⟩
          refine ⟨k + 1, isLeast_ends_succ hmoves hleast, ?_⟩
          simp only [hmoves, if_true]
          rw [hrun, after_step, movement_step, UInt32.add_assoc]
          rw [UInt32.ofNat_add, UInt32.add_comm (UInt32.ofNat k)]
          rfl

/-!
# The loop with its counter

A turn of the loop after which it goes on is a step that moved enough while the
counter was below the cap. The relation records how many such turns there were,
the arena they led to and the counter.
-/

inductive Turns (step : Arena α -> Arena α × α) (threshold : α) (cap : UInt32)
    (start : Arena α) : Nat -> Arena α -> UInt32 -> Prop where
  | start : Turns step threshold cap start 0 start 0
  | again {n : Nat} {arena : Arena α} {count : UInt32} :
      Turns step threshold cap start n arena count ->
      Scalar.ble threshold (step arena).2 = true ->
      count < cap ->
      Turns step threshold cap start (n + 1) (step arena).1 (count + 1)

namespace Turns

variable {threshold : α} {cap : UInt32} {start : Arena α}

theorem toNat_count {n : Nat} {count : UInt32}
    (h : Turns step threshold cap start n arena count) : count.toNat = n := by
  induction h with
  | start =>
      rfl
  | again _ _ hlt ih =>
      rw [UInt32.lt_iff_toNat_lt] at hlt
      rw [UInt32.toNat_add, ih]
      apply Nat.mod_eq_of_lt
      have hcap := cap.toNat_lt
      rw [ih] at hlt
      exact Nat.lt_of_le_of_lt hlt hcap

theorem arena_eq {n : Nat} {count : UInt32}
    (h : Turns step threshold cap start n arena count) : arena = after step start n := by
  induction h with
  | start =>
      rfl
  | again _ _ _ ih =>
      rw [ih]
      rfl

/-- The loop cannot go on past a number of steps at which it has to end. -/
theorem le_of_ends {n k : Nat} {count : UInt32}
    (h : Turns step threshold cap start n arena count)
    (hend : k ∈ Ends step threshold cap.toNat start) : n ≤ k := by
  induction h with
  | start =>
      exact Nat.zero_le k
  | again hturns hmoves hlt ih =>
      apply Nat.lt_of_le_of_ne ih
      intro heq
      cases hend with
      | inl hquiet =>
          rw [← heq] at hquiet
          unfold movement at hquiet
          rw [← hturns.arena_eq, hmoves] at hquiet
          cases hquiet
      | inr hcap =>
          rw [UInt32.lt_iff_toNat_lt, hturns.toNat_count, heq, hcap] at hlt
          exact Nat.lt_irrefl _ hlt

theorem of_isLeast {k : Nat} (h : IsLeast (Ends step threshold cap.toNat start) k)
    {n : Nat} (hn : n ≤ k) :
    Turns step threshold cap start n (after step start n) (UInt32.ofNat n) := by
  induction n with
  | zero =>
      exact Turns.start
  | succ n ih =>
      have hgoes : n ∉ Ends step threshold cap.toNat start := by
        intro hend
        exact absurd (h.2 hend) (Nat.not_le_of_lt hn)
      have hmoves : Scalar.ble threshold (movement step start n) = true := by
        rw [← Bool.not_eq_false]
        intro hquiet
        exact hgoes (Or.inl hquiet)
      have hprevious := ih (Nat.le_of_lt hn)
      have hbelow : UInt32.ofNat n < cap := by
        rw [UInt32.lt_iff_toNat_lt, hprevious.toNat_count]
        have hle : k ≤ cap.toNat := h.2 (Or.inr rfl)
        exact Nat.lt_of_lt_of_le hn hle
      rw [UInt32.ofNat_add]
      exact Turns.again hprevious hmoves hbelow

end Turns

end Arena
end GraphLayout
