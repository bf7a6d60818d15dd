import GraphLayout.Proofs.Arena.Frame

/-!
# The pairs of nodes that act on each other

Attraction walks over the edges and repulsion over all pairs of slots below the
bound. Both pass over a pair without a node at either slot, so that each comes down
to the pairs of present nodes among its own, in the same order.
-/

namespace GraphLayout

/-!
# Ordered pairs
-/

/-- The pairs of entries of a list, the earlier one first, in the order of the earlier
and then of the later entry. -/
def orderedPairs {β : Type} : List β -> List (β × β)
  | [] => []
  | x :: rest => rest.map (fun y => (x, y)) ++ orderedPairs rest

section OrderedPairs

variable {β γ : Type}

theorem mem_of_mem_orderedPairs {xs : List β} {pair : β × β} (h : pair ∈ orderedPairs xs) :
    pair.1 ∈ xs ∧ pair.2 ∈ xs := by
  induction xs with
  | nil =>
      cases h
  | cons x rest ih =>
      unfold orderedPairs at h
      rcases List.mem_append.mp h with hfirst | hrest
      · rcases List.mem_map.mp hfirst with ⟨y, hy, rfl⟩
        exact ⟨List.mem_cons_self, List.mem_cons_of_mem x hy⟩
      · rcases ih hrest with ⟨hleft, hright⟩
        exact ⟨List.mem_cons_of_mem x hleft, List.mem_cons_of_mem x hright⟩

theorem mem_orderedPairs_of_lt {xs : List Nat} (h : xs.Pairwise (· < ·)) {s t : Nat}
    (hs : s ∈ xs) (ht : t ∈ xs) (hlt : s < t) : (s, t) ∈ orderedPairs xs := by
  induction xs with
  | nil =>
      cases hs
  | cons x rest ih =>
      rcases List.pairwise_cons.mp h with ⟨hleast, hrest⟩
      unfold orderedPairs
      rw [List.mem_append]
      rcases List.mem_cons.mp ht with rfl | htail
      · -- nothing in the list lies below its first entry
        rcases List.mem_cons.mp hs with rfl | hslater
        · exact absurd hlt (Nat.lt_irrefl s)
        · exact absurd hlt (Nat.lt_asymm (hleast s hslater))
      · rcases List.mem_cons.mp hs with rfl | hslater
        · exact Or.inl (List.mem_map_of_mem htail)
        · exact Or.inr (ih hrest hslater htail)

theorem pairwise_orderedPairs {xs : List Nat} (h : xs.Pairwise (· < ·)) :
    (orderedPairs xs).Pairwise (Prod.Lex (· < ·) (· < ·)) := by
  induction xs with
  | nil =>
      exact List.Pairwise.nil
  | cons x rest ih =>
      rcases List.pairwise_cons.mp h with ⟨hleast, hrest⟩
      unfold orderedPairs
      rw [List.pairwise_append]
      refine ⟨?_, ih hrest, ?_⟩
      · rw [List.pairwise_map]
        exact hrest.imp fun hlt => Prod.Lex.right x hlt
      · intro first hfirst second hsecond
        rcases List.mem_map.mp hfirst with ⟨y, _, rfl⟩
        exact Prod.Lex.left _ _ (hleast _ (mem_of_mem_orderedPairs hsecond).1)

theorem rel_of_mem_orderedPairs {R : β -> β -> Prop} {xs : List β} (h : xs.Pairwise R)
    {pair : β × β} (hpair : pair ∈ orderedPairs xs) : R pair.1 pair.2 := by
  induction xs with
  | nil =>
      cases hpair
  | cons x rest ih =>
      rcases List.pairwise_cons.mp h with ⟨hfirst, hrest⟩
      unfold orderedPairs at hpair
      rcases List.mem_append.mp hpair with hwith | hwithout
      · rcases List.mem_map.mp hwith with ⟨y, hy, rfl⟩
        exact hfirst y hy
      · exact ih hrest hwithout

theorem orderedPairs_map (f : β -> γ) (xs : List β) :
    orderedPairs (xs.map f) = (orderedPairs xs).map (Prod.map f f) := by
  induction xs with
  | nil =>
      rfl
  | cons x rest ih =>
      rw [List.map_cons]
      unfold orderedPairs
      rw [ih, List.map_append, List.map_map, List.map_map]
      rfl

theorem filter_orderedPairs (p : β -> Bool) (xs : List β) :
    (orderedPairs xs).filter (fun pair => p pair.1 && p pair.2) =
      orderedPairs (xs.filter p) := by
  induction xs with
  | nil =>
      rfl
  | cons x rest ih =>
      rw [orderedPairs, List.filter_append, ih, List.filter_map]
      cases hx : p x with
      | true =>
          rw [List.filter_cons_of_pos hx, orderedPairs]
          congr 2
          apply List.filter_congr
          intro y _
          simp [hx]
      | false =>
          have hnone : (rest.filter ((fun pair : β × β => p pair.1 && p pair.2) ∘
              fun y => (x, y))) = [] := by
            rw [List.filter_eq_nil_iff]
            intro y _
            simp [hx]
          rw [List.filter_cons_of_neg (by simp [hx]), hnone]
          rfl

theorem orderedPairs_range' (start len : Nat) :
    orderedPairs (List.range' start len) =
      (List.range' start len).flatMap fun i =>
        (List.range' (i + 1) (start + len - (i + 1))).map fun j => (i, j) := by
  induction len generalizing start with
  | zero =>
      rfl
  | succ len ih =>
      rw [List.range'_succ, orderedPairs, List.flatMap_cons, ih]
      have hfirst : start + (len + 1) - (start + 1) = len := by omega
      have hrest : start + 1 + len = start + (len + 1) := by omega
      rw [hfirst, hrest]

theorem ascendingPairs_eq_orderedPairs (bound : Nat) :
    ascendingPairs bound = orderedPairs (List.range bound) := by
  unfold ascendingPairs
  rw [List.range_eq_range', orderedPairs_range', Nat.zero_add]

end OrderedPairs

namespace Arena

variable {α : Type}

/-!
# Pairs of present nodes
-/

def hasBoth (arena : Arena α) (pair : Nat × Nat) : Bool :=
  (arena.node? pair.1).isSome && (arena.node? pair.2).isSome

theorem hasBoth_iff {arena : Arena α} {pair : Nat × Nat} :
    arena.hasBoth pair = true <->
      pair.1 ∈ arena.presentSlots ∧ pair.2 ∈ arena.presentSlots := by
  unfold hasBoth
  rw [Bool.and_eq_true, mem_presentSlots, mem_presentSlots, Option.isSome_iff_exists,
    Option.isSome_iff_exists]

def drawn (arena : Arena α) (edges : Array Edge) : List (Nat × Nat) :=
  (edges.toList.filterMap Edge.endpoints?).filter arena.hasBoth

theorem SameNodes.hasBoth {a b : Arena α} (h : SameNodes a b) (pair : Nat × Nat) :
    b.hasBoth pair = a.hasBoth pair := by
  unfold Arena.hasBoth
  rw [h.isSome, h.isSome]

theorem SameNodes.drawn {a b : Arena α} (h : SameNodes a b) (edges : Array Edge) :
    b.drawn edges = a.drawn edges := by
  unfold Arena.drawn
  rw [funext h.hasBoth]

variable [Scalar α]

theorem interact_of_not_hasBoth {arena : Arena α} {pair : Nat × Nat}
    (h : arena.hasBoth pair = false) (force? : Vec3 α -> Vec3 α -> Option (Vec3 α)) :
    arena.interact force? pair = arena := by
  unfold hasBoth at h
  unfold interact
  cases hfirst : arena.node? pair.1 with
  | none =>
      rfl
  | some first =>
      cases hsecond : arena.node? pair.2 with
      | none =>
          rfl
      | some second =>
          rw [hfirst, hsecond] at h
          cases h

theorem foldl_interact_filter (force? : Vec3 α -> Vec3 α -> Option (Vec3 α))
    (arena : Arena α) (pairs : List (Nat × Nat)) :
    pairs.foldl (interact force?) arena =
      (pairs.filter arena.hasBoth).foldl (interact force?) arena := by
  induction pairs generalizing arena with
  | nil =>
      rfl
  | cons pair rest ih =>
      cases hpair : arena.hasBoth pair with
      | true =>
          have hsame : (arena.interact force? pair).hasBoth = arena.hasBoth :=
            funext (sameNodes_interact force? arena pair).hasBoth
          rw [List.filter_cons_of_pos hpair, List.foldl_cons, List.foldl_cons, ih, hsame]
      | false =>
          rw [List.filter_cons_of_neg (by simp [hpair]), List.foldl_cons,
            interact_of_not_hasBoth hpair, ih]

theorem attract_eq_foldl_endpoints (config : Config α) (dimensions : Dimensions)
    (edges : Array Edge) (arena : Arena α) :
    arena.attract config dimensions edges =
      (edges.toList.filterMap Edge.endpoints?).foldl (interact (config.pull? dimensions))
        arena := by
  unfold attract
  rw [List.foldl_filterMap, Array.foldl_toList]
  congr 1
  funext arena edge
  unfold attractAlong
  cases edge.endpoints? with
  | none =>
      rfl
  | some ends =>
      rfl

theorem attract_eq_foldl (config : Config α) (dimensions : Dimensions) (edges : Array Edge)
    (arena : Arena α) :
    arena.attract config dimensions edges =
      (arena.drawn edges).foldl (interact (config.pull? dimensions)) arena := by
  unfold drawn
  rw [← foldl_interact_filter, attract_eq_foldl_endpoints]

theorem repel_eq_foldl (config : Config α) (dimensions : Dimensions) (arena : Arena α) :
    arena.repel config dimensions =
      (orderedPairs arena.presentSlots).foldl (interact (config.push? dimensions)) arena := by
  unfold repel repelPairs
  rw [foldl_interact_filter, ascendingPairs_eq_orderedPairs, presentSlots_eq_filter_range,
    ← filter_orderedPairs]
  rfl

end Arena
end GraphLayout
