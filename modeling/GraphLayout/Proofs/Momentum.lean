import GraphLayout.Proofs.Impulses

/-!
# Momentum

A force between two nodes gives to the one what it takes from the other, so that the sum of all
velocities stays. Attraction and repulsion are walks over such forces and keep the sum too,
whatever the edges are and wherever the nodes are.
-/

namespace GraphLayout

theorem sum_map_filterMap {M β γ : Type} [AddMonoid M] (f : β -> Option γ) (g : γ -> M)
    (xs : List β) :
    ((xs.filterMap f).map g).sum = (xs.map fun x => ((f x).map g).getD 0).sum := by
  induction xs with
  | nil =>
      rfl
  | cons x rest ih =>
      rw [List.filterMap_cons, List.map_cons, List.sum_cons, ← ih]
      cases f x with
      | none =>
          exact (zero_add _).symm
      | some y =>
          exact List.sum_cons

namespace Arena

variable {α : Type} [Scalar α] [LawfulScalar α]

def momentum (arena : Arena α) : Vec3 α :=
  (arena.nodes.map Node.velocity).sum

theorem momentum_eq_sum_presentSlots (arena : Arena α) :
    arena.momentum =
      (arena.presentSlots.map fun slot =>
        ((arena.node? slot).map Node.velocity).getD 0).sum := by
  unfold momentum
  rw [nodes_eq_filterMap_presentSlots, sum_map_filterMap]

theorem momentum_impel (impulse : Nat -> Vec3 α) (arena : Arena α) :
    (arena.impel impulse).momentum = arena.momentum + (arena.presentSlots.map impulse).sum := by
  rw [momentum_eq_sum_presentSlots, momentum_eq_sum_presentSlots,
    (sameNodes_impel impulse arena).presentSlots, ← List.sum_map_add]
  congr 1
  apply List.map_congr_left
  intro slot hslot
  rcases mem_presentSlots.mp hslot with ⟨node, hnode⟩
  rw [node?_impel, hnode]
  rfl

/-- Of the slots that add up, one is the first of the two and one is the second. -/
theorem sum_share {slots : List Nat} (hnodup : slots.Nodup) {pair : Nat × Nat}
    (hfirst : pair.1 ∈ slots) (hsecond : pair.2 ∈ slots) (force : Vec3 α) :
    (slots.map fun slot => share slot pair force).sum = 0 := by
  have hone : forall {s : Nat}, s ∈ slots ->
      (slots.map fun slot => if s = slot then force else 0).sum = force := by
    intro s hs
    rw [List.sum_map_eq_nsmul_single s _ fun slot hne _ => if_neg hne.symm,
      List.count_eq_one_of_mem hnodup hs, if_pos rfl, one_nsmul]
  have hsplit := List.sum_map_add (l := slots)
    (f := fun slot => share slot pair force) (g := fun slot => if pair.2 = slot then force else 0)
  simp only [share, sub_add_cancel] at hsplit
  rw [hone hfirst, hone hsecond] at hsplit
  exact right_eq_add.mp hsplit

variable (force? : Vec3 α -> Vec3 α -> Option (Vec3 α))

omit [Scalar α] [LawfulScalar α] in
theorem present_of_forceBetween? {arena : Arena α} {pair : Nat × Nat} {force : Vec3 α}
    (h : arena.forceBetween? force? pair = some force) :
    pair.1 ∈ arena.presentSlots ∧ pair.2 ∈ arena.presentSlots := by
  unfold forceBetween? at h
  rcases Option.bind_eq_some_iff.mp h with ⟨first, hfirst, hrest⟩
  rcases Option.bind_eq_some_iff.mp hrest with ⟨second, hsecond, _⟩
  exact ⟨mem_presentSlots.mpr ⟨first, hfirst⟩, mem_presentSlots.mpr ⟨second, hsecond⟩⟩

theorem momentum_interact (arena : Arena α) (pair : Nat × Nat) :
    (arena.interact force? pair).momentum = arena.momentum := by
  rw [interact_eq]
  cases hforce : arena.forceBetween? force? pair with
  | none =>
      rfl
  | some force =>
      rcases present_of_forceBetween? force? hforce with ⟨hfirst, hsecond⟩
      rw [Option.map_some, Option.getD_some, exert_eq_impel, momentum_impel,
        sum_share arena.nodup_presentSlots hfirst hsecond, add_zero]

theorem momentum_foldl_interact (arena : Arena α) (pairs : List (Nat × Nat)) :
    (pairs.foldl (interact force?) arena).momentum = arena.momentum := by
  induction pairs generalizing arena with
  | nil =>
      rfl
  | cons pair rest ih =>
      rw [List.foldl_cons, ih, momentum_interact]

variable (config : Config α) (dimensions : Dimensions)

theorem momentum_attract (edges : Array Edge) (arena : Arena α) :
    (arena.attract config dimensions edges).momentum = arena.momentum := by
  rw [attract_eq_foldl_endpoints, momentum_foldl_interact]

theorem momentum_repel (arena : Arena α) :
    (arena.repel config dimensions).momentum = arena.momentum :=
  momentum_foldl_interact (config.push? dimensions) arena _

end Arena
end GraphLayout
