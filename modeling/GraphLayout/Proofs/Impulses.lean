import GraphLayout.Proofs.Attraction
import GraphLayout.Proofs.LawfulScalars
import GraphLayout.Proofs.Repulsion

/-!
# Forces as impulses

Where scalars add without rounding, a force comes down to one impulse for every slot, which the
node there takes up at once. The impulses are sums over edges and over other nodes, and they
read nothing but the places of the nodes; so forces that act one after the other could as well
act in any other order.
-/

namespace GraphLayout

variable {α : Type} [Scalar α]

/-- What a slot gets of a force between two slots: the first one gains it, and the second one
loses it. A force between a slot and itself gives nothing. -/
def Arena.share (slot : Nat) (pair : Nat × Nat) (force : Vec3 α) : Vec3 α :=
  (if pair.1 = slot then force else 0) - if pair.2 = slot then force else 0

namespace Config

def pullShare (config : Config α) (slot : Nat) (span : Span α) : Vec3 α :=
  Arena.share slot (span.source, span.target) (config.pullAlong span.delta)

def pushShare (config : Config α) (dimensions : Dimensions) (pushed pushing : Vec3 α) : Vec3 α :=
  (config.push? dimensions pushed pushing).getD 0

def weightShare (config : Config α) (position : Vec3 α) : Vec3 α :=
  -(position * config.gravity : Vec3 α)

end Config

namespace Arena

/-!
# Impulses
-/

def impel (impulse : Nat -> Vec3 α) (arena : Arena α) : Arena α :=
  { arena with
    slots := arena.slots.mapIdx fun slot entry =>
      entry.map fun node => node.accelerate (impulse slot) }

section Impulses

variable (config : Config α) (dimensions : Dimensions)

def pullAt (edges : Array Edge) (arena : Arena α) (slot : Nat) : Vec3 α :=
  ((arena.spans dimensions edges).map (config.pullShare slot)).sum

def pushAt (arena : Arena α) (slot : Nat) : Vec3 α :=
  ((arena.node? slot).map fun node =>
    ((arena.others slot).map fun other =>
      config.pushShare dimensions node.position other.2.position).sum).getD 0

def weightAt (arena : Arena α) (slot : Nat) : Vec3 α :=
  ((arena.node? slot).map fun node => config.weightShare node.position).getD 0

end Impulses

theorem node?_impel (impulse : Nat -> Vec3 α) (arena : Arena α) (slot : Nat) :
    (arena.impel impulse).node? slot =
      (arena.node? slot).map fun node => node.accelerate (impulse slot) := by
  unfold node? impel
  rw [Array.getElem?_mapIdx]
  cases arena.slots[slot]? with
  | none =>
      rfl
  | some entry =>
      rfl

theorem sameNodes_impel (impulse : Nat -> Vec3 α) (arena : Arena α) :
    SameNodes arena (arena.impel impulse) where
  label slot := by
    rw [node?_impel, Option.map_map]
    rfl
  size := Array.size_mapIdx
  vacant := rfl
  links := rfl

theorem agreeBy_position_impel (impulse : Nat -> Vec3 α) (arena : Arena α) :
    AgreeBy Node.position arena (arena.impel impulse) := by
  intro slot
  rw [node?_impel, Option.map_map]
  rfl

theorem eq_impel {arena after : Arena α} (h : SameNodes arena after) {impulse : Nat -> Vec3 α}
    (hnode : forall slot, after.node? slot =
      (arena.node? slot).map fun node => node.accelerate (impulse slot)) :
    after = arena.impel impulse := by
  apply eq_of_sameNodes ((sameNodes_impel impulse arena).symm.trans h)
  intro slot
  rw [hnode, node?_impel]

/-!
# What the impulses read
-/

namespace AgreeBy

omit [Scalar α] in
theorem others {β : Type} {view : Node α -> β} {a b : Arena α} (h : AgreeBy view a b)
    (slot : Nat) :
    (b.others slot).map (Prod.map id view) = (a.others slot).map (Prod.map id view) := by
  have hview : forall arena : Arena α, (arena.others slot).map (Prod.map id view) =
      (arena.occupied.map (Prod.map id view)).filter fun other => other.1 ≠ slot := by
    intro arena
    unfold Arena.others
    rw [List.filter_map]
    rfl
  rw [hview, hview, h.occupied]

variable {a b : Arena α} (h : AgreeBy Node.position a b) (config : Config α)
  (dimensions : Dimensions)
include h

theorem spans (edges : Array Edge) : b.spans dimensions edges = a.spans dimensions edges := by
  have hbetween : b.spanBetween? dimensions = a.spanBetween? dimensions := by
    funext ends
    have hview : forall arena : Arena α, arena.spanBetween? dimensions ends =
        ((arena.node? ends.1).map Node.position).bind fun source =>
          ((arena.node? ends.2).map Node.position).bind fun target =>
            let delta := dimensions.activeAxes (target - source)
            if delta.length == 0 then none else some ⟨ends.1, ends.2, delta⟩ := by
      intro arena
      unfold spanBetween?
      simp only [Option.bind_map]
      rfl
    rw [hview, hview, h, h]
  unfold Arena.spans span?
  rw [hbetween]

theorem pullAt (edges : Array Edge) :
    b.pullAt config dimensions edges = a.pullAt config dimensions edges := by
  unfold Arena.pullAt
  rw [h.spans]

theorem pushAt : b.pushAt config dimensions = a.pushAt config dimensions := by
  funext slot
  have hview : forall arena : Arena α, arena.pushAt config dimensions slot =
      (((arena.node? slot).map Node.position).map fun position =>
        (((arena.others slot).map (Prod.map id Node.position)).map fun other =>
          config.pushShare dimensions position other.2).sum).getD 0 := by
    intro arena
    unfold Arena.pushAt
    simp only [Option.map_map, List.map_map]
    rfl
  rw [hview, hview, h slot, h.others]

theorem weightAt : b.weightAt config = a.weightAt config := by
  funext slot
  have hview : forall arena : Arena α, arena.weightAt config slot =
      (((arena.node? slot).map Node.position).map config.weightShare).getD 0 := by
    intro arena
    unfold Arena.weightAt
    rw [Option.map_map]
    rfl
  rw [hview, hview, h slot]

end AgreeBy
end Arena

/-!
# The forces

A walk that adds something to a velocity in every turn adds the sum in the end.
-/

theorem foldl_add_eq {M β : Type} [AddMonoid M] {f : M -> β -> M} {g : β -> M}
    (h : forall acc x, f acc x = acc + g x) (xs : List β) (acc : M) :
    xs.foldl f acc = acc + (xs.map g).sum := by
  induction xs generalizing acc with
  | nil =>
      rw [List.foldl_nil, List.map_nil, List.sum_nil, add_zero]
  | cons x rest ih =>
      rw [List.foldl_cons, ih, h, List.map_cons, List.sum_cons, add_assoc]

variable [LawfulScalar α]

theorem Dimensions.activeAxes_sub_comm (dimensions : Dimensions) (a b : Vec3 α) :
    dimensions.activeAxes (a - b) = -dimensions.activeAxes (b - a) := by
  rw [← activeAxes_neg, neg_sub]

theorem Arena.feel_eq_add (slot : Nat) (velocity : Vec3 α) (pair : Nat × Nat) (force : Vec3 α) :
    feel slot velocity pair force = velocity + share slot pair force := by
  unfold feel share
  by_cases hfirst : pair.1 = slot <;> by_cases hsecond : pair.2 = slot <;>
    simp [hfirst, hsecond, sub_eq_add_neg]

namespace Config

variable (config : Config α)

theorem pulledBy_eq_add (slot : Nat) (velocity : Vec3 α) (span : Span α) :
    config.pulledBy slot velocity span = velocity + config.pullShare slot span :=
  Arena.feel_eq_add slot velocity (span.source, span.target) (config.pullAlong span.delta)

theorem pullAlong_neg (delta : Vec3 α) : config.pullAlong (-delta) = -config.pullAlong delta := by
  unfold pullAlong
  rw [Vec3.length_neg, Vec3.neg_div, Vec3.neg_mul]

theorem pushAlong_neg (delta : Vec3 α) : config.pushAlong (-delta) = -config.pushAlong delta := by
  unfold pushAlong
  rw [Vec3.lengthSquared_neg, Vec3.neg_div, Vec3.neg_mul]

/-- The push does not depend on which of two nodes is in the lower slot. -/
theorem pushedBy_eq_add (dimensions : Dimensions) (slot : Nat) (node : Node α)
    (velocity : Vec3 α) (other : Nat × Node α) :
    config.pushedBy dimensions slot node velocity other =
      velocity + config.pushShare dimensions node.position other.2.position := by
  unfold pushedBy pushShare
  dsimp only
  rw [push?_eq, dimensions.activeAxes_sub_comm other.2.position, Vec3.lengthSquared_neg,
    pushAlong_neg, sub_neg_eq_add, ite_self]
  split
  · rw [Option.getD_none, add_zero]
  · rw [Option.getD_some]

end Config

namespace Arena

variable (config : Config α) (dimensions : Dimensions)

theorem exert_eq_impel (arena : Arena α) (pair : Nat × Nat) (force : Vec3 α) :
    arena.exert pair.1 pair.2 force = arena.impel fun slot => share slot pair force := by
  apply eq_impel (sameNodes_exert arena pair.1 pair.2 force)
  intro slot
  rw [node?_exert]
  simp only [feel_eq_add]
  rfl

theorem attract_eq_impel (edges : Array Edge) (arena : Arena α) :
    arena.attract config dimensions edges =
      arena.impel (arena.pullAt config dimensions edges) := by
  apply eq_impel (sameNodes_attract config dimensions edges arena)
  intro slot
  rw [node?_attract]
  unfold Node.accelerate pullAt
  simp only [foldl_add_eq (config.pulledBy_eq_add slot)]

theorem repel_eq_impel (arena : Arena α) :
    arena.repel config dimensions = arena.impel (arena.pushAt config dimensions) := by
  apply eq_impel (sameNodes_repel config dimensions arena)
  intro slot
  rw [node?_repel]
  unfold pushAt
  cases arena.node? slot with
  | none =>
      rfl
  | some node =>
      unfold Node.accelerate
      simp only [Option.map_some, Option.getD_some,
        foldl_add_eq (config.pushedBy_eq_add dimensions slot node)]

theorem gravitate_eq_impel (arena : Arena α) :
    arena.gravitate config = arena.impel (arena.weightAt config) := by
  apply eq_impel (sameNodes_gravitate config arena)
  intro slot
  unfold gravitate weightAt
  rw [node?_map]
  cases arena.node? slot with
  | none =>
      rfl
  | some node =>
      unfold Node.accelerate Node.decelerate Config.weightShare
      simp only [Option.map_some, Option.getD_some, sub_eq_add_neg]

theorem impel_impel (first second : Nat -> Vec3 α) (arena : Arena α) :
    (arena.impel first).impel second = arena.impel fun slot => first slot + second slot := by
  apply eq_impel ((sameNodes_impel first arena).trans (sameNodes_impel second _))
  intro slot
  rw [node?_impel, node?_impel, Option.map_map]
  congr 1
  funext node
  unfold Node.accelerate
  simp only [Function.comp_apply, add_assoc]

end Arena
end GraphLayout
