import GraphLayout.Proofs.Arena.Gather

/-!
# Repulsion, node by node

Repulsion walks over pairs of slots and changes two nodes in each turn. The same velocities
come about when every node gathers what the others give it, in the order of their slots. No
law of arithmetic is used, so that the two ways agree in every bit.
-/

namespace GraphLayout

variable {α : Type} [Scalar α]

namespace Config

def pushAlong (config : Config α) (delta : Vec3 α) : Vec3 α :=
  delta / Scalar.sqrt delta.lengthSquared * (config.repulsion / delta.lengthSquared)

theorem push?_eq (config : Config α) (dimensions : Dimensions) (pushed pushing : Vec3 α) :
    config.push? dimensions pushed pushing =
      if (dimensions.activeAxes (pushed - pushing)).lengthSquared == 0 then none
      else some (config.pushAlong (dimensions.activeAxes (pushed - pushing))) :=
  rfl

/-- The velocity of a node after what one other node gives it. Of the two nodes the one in the
lower slot counts as pushed, and the other one feels the push reversed. -/
def pushedBy (config : Config α) (dimensions : Dimensions) (slot : Nat) (node : Node α)
    (velocity : Vec3 α) (other : Nat × Node α) : Vec3 α :=
  if other.1 < slot then
    let delta := dimensions.activeAxes (other.2.position - node.position)
    if delta.lengthSquared == 0 then velocity else velocity - config.pushAlong delta
  else
    let delta := dimensions.activeAxes (node.position - other.2.position)
    if delta.lengthSquared == 0 then velocity else velocity + config.pushAlong delta

end Config

namespace Arena

/-!
# The nodes beside one node
-/

def others (arena : Arena α) (slot : Nat) : List (Nat × Node α) :=
  arena.occupied.filter fun other => other.1 ≠ slot

omit [Scalar α] in
theorem occupied_split {arena : Arena α} {slot : Nat} {node : Node α}
    (h : arena.node? slot = some node) :
    exists before after, arena.occupied = before ++ (slot, node) :: after ∧
      arena.others slot = before ++ after ∧
      (forall other, other ∈ before -> other.1 < slot) ∧
      (forall other, other ∈ after -> slot < other.1) := by
  rcases List.append_of_mem (mem_occupied.mpr h) with ⟨before, after, hsplit⟩
  have hsorted := arena.pairwise_occupied
  rw [hsplit] at hsorted
  rcases List.pairwise_append.mp hsorted with ⟨_, hrest, hacross⟩
  have hbefore : forall other, other ∈ before -> other.1 < slot := fun other hother =>
    hacross other hother (slot, node) List.mem_cons_self
  have hafter : forall other, other ∈ after -> slot < other.1 :=
    (List.pairwise_cons.mp hrest).1
  refine ⟨before, after, hsplit, ?_, hbefore, hafter⟩
  have hkeepBefore : (before.filter fun other => other.1 ≠ slot) = before := by
    rw [List.filter_eq_self]
    intro other hother
    exact decide_eq_true (Nat.ne_of_lt (hbefore other hother))
  have hkeepAfter : (after.filter fun other => other.1 ≠ slot) = after := by
    rw [List.filter_eq_self]
    intro other hother
    exact decide_eq_true (Nat.ne_of_gt (hafter other hother))
  unfold others
  rw [hsplit, List.filter_append, hkeepBefore, List.filter_cons_of_neg (by simp), hkeepAfter]

variable {arena : Arena α} {slot : Nat} {node : Node α} {other : Nat × Node α}
  (config : Config α) (dimensions : Dimensions)

theorem felt_push? {pair : Nat × Nat} {pushed pushing : Node α}
    (hpushed : arena.node? pair.1 = some pushed) (hpushing : arena.node? pair.2 = some pushing)
    (velocity : Vec3 α) :
    arena.felt (config.push? dimensions) slot velocity pair =
      if (dimensions.activeAxes (pushed.position - pushing.position)).lengthSquared == 0 then
        velocity
      else
        feel slot velocity pair
          (config.pushAlong (dimensions.activeAxes (pushed.position - pushing.position))) := by
  rw [felt, forceBetween?, hpushed, Option.bind_some, hpushing, Option.bind_some, Config.push?_eq]
  split
  · rfl
  · rfl

theorem felt_push?_of_lt (hnode : arena.node? slot = some node) (hother : other ∈ arena.occupied)
    (hlt : other.1 < slot) (velocity : Vec3 α) :
    arena.felt (config.push? dimensions) slot velocity (other.1, slot) =
      config.pushedBy dimensions slot node velocity other := by
  rw [felt_push? config dimensions (mem_occupied.mp hother) hnode, feel_second (Nat.ne_of_lt hlt)]
  exact (if_pos hlt).symm

theorem felt_push?_of_gt (hnode : arena.node? slot = some node) (hother : other ∈ arena.occupied)
    (hlt : slot < other.1) (velocity : Vec3 α) :
    arena.felt (config.push? dimensions) slot velocity (slot, other.1) =
      config.pushedBy dimensions slot node velocity other := by
  rw [felt_push? config dimensions hnode (mem_occupied.mp hother), feel_first (Nat.ne_of_gt hlt)]
  exact (if_neg (Nat.lt_asymm hlt)).symm

/-!
# Repulsion
-/

theorem foldl_felt_push? (hnode : arena.node? slot = some node) (velocity : Vec3 α) :
    (orderedPairs arena.presentSlots).foldl (arena.felt (config.push? dimensions) slot) velocity =
      (arena.others slot).foldl (config.pushedBy dimensions slot node) velocity := by
  rcases occupied_split hnode with ⟨before, after, hsplit, hothers, hbefore, hafter⟩
  have hmemBefore : forall other, other ∈ before -> other ∈ arena.occupied := by
    intro other hother
    rw [hsplit]
    exact List.mem_append_left _ hother
  have hmemAfter : forall other, other ∈ after -> other ∈ arena.occupied := by
    intro other hother
    rw [hsplit]
    exact List.mem_append_right _ (List.mem_cons_of_mem _ hother)
  unfold presentSlots
  rw [orderedPairs_map, List.foldl_map, hothers, List.foldl_append, hsplit,
    foldl_orderedPairs (fun other hother => Nat.ne_of_lt (hbefore other hother))
      (fun other hother => Nat.ne_of_gt (hafter other hother))
      (fun velocity _ _ hfirst hsecond => arena.felt_of_ne _ hfirst hsecond velocity)]
  have hlow : before.foldl (fun velocity other =>
        arena.felt (config.push? dimensions) slot velocity (other.1, slot)) velocity =
      before.foldl (config.pushedBy dimensions slot node) velocity :=
    List.foldl_ext _ _ _ fun velocity other hother =>
      felt_push?_of_lt config dimensions hnode (hmemBefore other hother) (hbefore other hother)
        velocity
  have hhigh : forall velocity, after.foldl (fun velocity other =>
        arena.felt (config.push? dimensions) slot velocity (slot, other.1)) velocity =
      after.foldl (config.pushedBy dimensions slot node) velocity := fun velocity =>
    List.foldl_ext _ _ _ fun velocity other hother =>
      felt_push?_of_gt config dimensions hnode (hmemAfter other hother) (hafter other hother)
        velocity
  rw [← hlow, ← hhigh]
  rfl

theorem node?_repel (arena : Arena α) (slot : Nat) :
    (arena.repel config dimensions).node? slot =
      (arena.node? slot).map fun node =>
        { node with
          velocity :=
            (arena.others slot).foldl (config.pushedBy dimensions slot node) node.velocity } := by
  rw [repel_eq_foldl, node?_foldl_interact]
  cases hnode : arena.node? slot with
  | none =>
      rfl
  | some node =>
      simp only [Option.map_some, foldl_felt_push? config dimensions hnode]

/-- Every node gathers what all others give it, and every two present nodes act on each other
once, in the order of the lower and then of the higher slot. -/
theorem repel_gathers (arena : Arena α) :
    SameNodes arena (arena.repel config dimensions) ∧
      (forall slot, (arena.repel config dimensions).node? slot =
        (arena.node? slot).map fun node =>
          { node with
            velocity :=
              (arena.others slot).foldl (config.pushedBy dimensions slot node)
                node.velocity }) ∧
      exists pairs : List (Nat × Nat),
        pairs.Pairwise (Prod.Lex (· < ·) (· < ·)) ∧
          (forall s t, (s, t) ∈ pairs <-> s < t ∧ (arena.node? s).isSome ∧ (arena.node? t).isSome) ∧
          arena.repel config dimensions =
            pairs.foldl (interact (config.push? dimensions)) arena := by
  refine ⟨sameNodes_repel config dimensions arena, arena.node?_repel config dimensions,
    orderedPairs arena.presentSlots, pairwise_orderedPairs arena.pairwise_presentSlots, ?_,
    repel_eq_foldl config dimensions arena⟩
  intro s t
  rw [Option.isSome_iff_exists, Option.isSome_iff_exists, ← mem_presentSlots, ← mem_presentSlots]
  constructor
  · intro hpair
    exact ⟨rel_of_mem_orderedPairs arena.pairwise_presentSlots hpair,
      mem_of_mem_orderedPairs hpair⟩
  · intro h
    exact mem_orderedPairs_of_lt arena.pairwise_presentSlots h.2.1 h.2.2 h.1

end Arena
end GraphLayout
