import GraphLayout.Proofs.Arena.Pairs

/-!
# What one node feels

A law of force that acts along a list of pairs of slots changes two velocities at a time.
Seen from one slot, the walk over the pairs is a fold that starts from the velocity of its
node: no position changes on the way, so that every force is the one between the places
at the start.
-/

namespace GraphLayout
namespace Arena

variable {α : Type} [Scalar α]

/-!
# One pair
-/

/-- The velocity of the node in a slot after a force on the first of two slots, which the
second one feels reversed. -/
def feel (slot : Nat) (velocity : Vec3 α) (pair : Nat × Nat) (force : Vec3 α) : Vec3 α :=
  let gained := if pair.1 = slot then velocity + force else velocity
  if pair.2 = slot then gained - force else gained

theorem feel_of_ne {slot : Nat} {pair : Nat × Nat} (hfirst : pair.1 ≠ slot)
    (hsecond : pair.2 ≠ slot) (velocity force : Vec3 α) :
    feel slot velocity pair force = velocity := by
  unfold feel
  rw [if_neg hfirst, if_neg hsecond]

theorem feel_first {slot other : Nat} (h : other ≠ slot) (velocity force : Vec3 α) :
    feel slot velocity (slot, other) force = velocity + force := by
  unfold feel
  rw [if_pos rfl, if_neg h]

theorem feel_second {slot other : Nat} (h : other ≠ slot) (velocity force : Vec3 α) :
    feel slot velocity (other, slot) force = velocity - force := by
  unfold feel
  rw [if_neg h, if_pos rfl]

theorem node?_exert (arena : Arena α) (first second : Nat) (force : Vec3 α) (slot : Nat) :
    (arena.exert first second force).node? slot =
      (arena.node? slot).map fun node =>
        { node with velocity := feel slot node.velocity (first, second) force } := by
  unfold exert feel
  rw [node?_modify, node?_modify]
  cases arena.node? slot with
  | none =>
      simp
  | some node =>
      by_cases hfirst : first = slot <;> by_cases hsecond : second = slot <;>
        simp [hfirst, hsecond, Node.accelerate, Node.decelerate]

def forceBetween? (force? : Vec3 α -> Vec3 α -> Option (Vec3 α)) (arena : Arena α)
    (pair : Nat × Nat) : Option (Vec3 α) :=
  (arena.node? pair.1).bind fun first =>
    (arena.node? pair.2).bind fun second => force? first.position second.position

variable (force? : Vec3 α -> Vec3 α -> Option (Vec3 α))

theorem interact_eq (arena : Arena α) (pair : Nat × Nat) :
    arena.interact force? pair =
      ((arena.forceBetween? force? pair).map (arena.exert pair.1 pair.2)).getD arena := by
  unfold interact forceBetween?
  cases arena.node? pair.1 with
  | none =>
      rfl
  | some first =>
      cases arena.node? pair.2 with
      | none =>
          rfl
      | some second =>
          simp only [Option.bind_some]
          cases force? first.position second.position with
          | none =>
              rfl
          | some force =>
              rfl

def felt (arena : Arena α) (slot : Nat) (velocity : Vec3 α) (pair : Nat × Nat) : Vec3 α :=
  ((arena.forceBetween? force? pair).map (feel slot velocity pair)).getD velocity

theorem node?_interact (arena : Arena α) (pair : Nat × Nat) (slot : Nat) :
    (arena.interact force? pair).node? slot =
      (arena.node? slot).map fun node =>
        { node with velocity := arena.felt force? slot node.velocity pair } := by
  rw [interact_eq]
  unfold felt
  cases arena.forceBetween? force? pair with
  | none =>
      simp
  | some force =>
      exact node?_exert arena pair.1 pair.2 force slot

theorem forceBetween?_interact (arena : Arena α) (pair : Nat × Nat) :
    (arena.interact force? pair).forceBetween? force? = arena.forceBetween? force? := by
  funext other
  unfold forceBetween?
  simp only [node?_interact, Option.bind_map]
  rfl

/-!
# A walk over pairs
-/

theorem node?_foldl_interact (arena : Arena α) (pairs : List (Nat × Nat)) (slot : Nat) :
    (pairs.foldl (interact force?) arena).node? slot =
      (arena.node? slot).map fun node =>
        { node with velocity := pairs.foldl (arena.felt force? slot) node.velocity } := by
  induction pairs generalizing arena with
  | nil =>
      simp
  | cons pair rest ih =>
      have hfelt : (arena.interact force? pair).felt force? slot = arena.felt force? slot := by
        unfold felt
        rw [forceBetween?_interact]
      rw [List.foldl_cons, ih, node?_interact, hfelt, Option.map_map]
      rfl

theorem foldl_interact_filter_force (arena : Arena α) (pairs : List (Nat × Nat)) :
    (pairs.filter fun pair => (arena.forceBetween? force? pair).isSome).foldl
        (interact force?) arena =
      pairs.foldl (interact force?) arena := by
  induction pairs generalizing arena with
  | nil =>
      rfl
  | cons pair rest ih =>
      cases hforce : arena.forceBetween? force? pair with
      | none =>
          rw [List.filter_cons_of_neg (by simp [hforce]), List.foldl_cons, ih, interact_eq, hforce]
          rfl
      | some force =>
          rw [List.filter_cons_of_pos (by simp [hforce]), List.foldl_cons, List.foldl_cons,
            ← ih (arena.interact force? pair), forceBetween?_interact]

theorem felt_of_ne (arena : Arena α) {slot : Nat} {pair : Nat × Nat} (hfirst : pair.1 ≠ slot)
    (hsecond : pair.2 ≠ slot) (velocity : Vec3 α) :
    arena.felt force? slot velocity pair = velocity := by
  unfold felt
  cases arena.forceBetween? force? pair with
  | none =>
      rfl
  | some force =>
      exact feel_of_ne hfirst hsecond velocity force

end Arena

/-!
# A walk over all pairs
-/

section AllPairs

variable {β γ : Type}

theorem foldl_eq_self {f : γ -> β -> γ} {xs : List β}
    (h : forall acc x, x ∈ xs -> f acc x = acc) (acc : γ) : xs.foldl f acc = acc := by
  induction xs with
  | nil =>
      rfl
  | cons x rest ih =>
      rw [List.foldl_cons, h acc x List.mem_cons_self]
      exact ih fun acc y hy => h acc y (List.mem_cons_of_mem x hy)

/-- If only the pairs with one entry matter, a walk over all ordered pairs meets that entry
with every earlier one, and then with every later one. -/
theorem foldl_orderedPairs {f : γ -> β × β -> γ} {before after : List β} {entry : β}
    {IsOther : β -> Prop} (hbefore : forall x, x ∈ before -> IsOther x)
    (hafter : forall x, x ∈ after -> IsOther x)
    (hskip : forall acc x y, IsOther x -> IsOther y -> f acc (x, y) = acc) (acc : γ) :
    (orderedPairs (before ++ entry :: after)).foldl f acc =
      after.foldl (fun acc y => f acc (entry, y))
        (before.foldl (fun acc x => f acc (x, entry)) acc) := by
  induction before generalizing acc with
  | nil =>
      have hrest : forall acc pair, pair ∈ orderedPairs after -> f acc pair = acc := by
        intro acc pair hpair
        rcases mem_of_mem_orderedPairs hpair with ⟨hfirst, hsecond⟩
        exact hskip acc pair.1 pair.2 (hafter _ hfirst) (hafter _ hsecond)
      rw [List.nil_append, orderedPairs, List.foldl_append, foldl_eq_self hrest, List.foldl_map]
      rfl
  | cons x before ih =>
      have hx := hbefore x List.mem_cons_self
      have hbefore' : forall y, y ∈ before -> IsOther y := fun y hy =>
        hbefore y (List.mem_cons_of_mem x hy)
      have hleft : forall acc y, y ∈ before -> f acc (x, y) = acc := fun acc y hy =>
        hskip acc x y hx (hbefore' y hy)
      have hright : forall acc y, y ∈ after -> f acc (x, y) = acc := fun acc y hy =>
        hskip acc x y hx (hafter y hy)
      rw [List.cons_append, orderedPairs, List.foldl_append, ih hbefore', List.foldl_map,
        List.foldl_append, List.foldl_cons, foldl_eq_self hleft, foldl_eq_self hright]
      rfl

end AllPairs

end GraphLayout
