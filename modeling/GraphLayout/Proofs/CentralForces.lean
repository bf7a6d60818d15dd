import GraphLayout.Proofs.CheckedForces
import GraphLayout.Proofs.Momentum

/-!
# Central forces

Without rounding a pull or a push is some multiple of the way between two nodes on the active
axes, the same multiple for both of them. Attraction draws the nodes of an edge together as far
as the edge is stretched, and never drives them apart; repulsion drives any two nodes apart that
do not coincide.
-/

namespace GraphLayout

deriving instance DecidableEq for Vec3

section Laws

variable {α : Type} [Scalar α]

namespace Dimensions

def way (dimensions : Dimensions) (a b : Vec3 α) : Vec3 α :=
  dimensions.activeAxes (b - a)

def Coincide (dimensions : Dimensions) (a b : Vec3 α) : Prop :=
  dimensions.activeAxes a = dimensions.activeAxes b

instance [DecidableEq α] (dimensions : Dimensions) (a b : Vec3 α) :
    Decidable (dimensions.Coincide a b) :=
  inferInstanceAs (Decidable (dimensions.activeAxes a = dimensions.activeAxes b))

end Dimensions

namespace Config

/-- The pull of an edge between two places for every unit of its length. -/
def tension (config : Config α) (dimensions : Dimensions) (a b : Vec3 α) : α :=
  config.attraction *
      Scalar.max ((dimensions.way a b).length - config.springLength) 0 /
    (dimensions.way a b).length

/-- The push between two places for every unit of their distance. -/
def thrust (config : Config α) (dimensions : Dimensions) (a b : Vec3 α) : α :=
  config.repulsion / (dimensions.way a b).lengthSquared /
    Scalar.sqrt (dimensions.way a b).lengthSquared

end Config

def Edge.farEnd? (slot : Nat) (edge : Edge) : Option Nat :=
  edge.endpoints?.bind fun ends =>
    if ends.1 = slot then some ends.2 else if ends.2 = slot then some ends.1 else none

def Arena.tiedTo (arena : Arena α) (edges : Array Edge) (slot : Nat) : List (Node α) :=
  edges.toList.filterMap fun edge => (edge.farEnd? slot).bind arena.node?

end Laws

/-!
# Ways
-/

variable {K : Type} [ExactScalar K]

theorem Vec3.zero_mul (s : K) : (0 : Vec3 K) * s = 0 := by
  apply ext_on
  intro axis
  rw [on_mul, on_zero, MulZeroClass.zero_mul]

namespace Dimensions

variable (dimensions : Dimensions) (a b : Vec3 K)

theorem activeAxes_sub :
    dimensions.activeAxes (b - a) = dimensions.activeAxes b - dimensions.activeAxes a := by
  cases dimensions with
  | two =>
      change (⟨b.x - a.x, b.y - a.y, 0⟩ : Vec3 K) = ⟨b.x - a.x, b.y - a.y, 0 - 0⟩
      rw [sub_zero]
  | three =>
      rfl

theorem way_comm : dimensions.way b a = -dimensions.way a b :=
  dimensions.activeAxes_sub_comm a b

theorem way_eq_zero_iff : dimensions.way a b = 0 <-> dimensions.Coincide a b := by
  unfold way Coincide
  rw [activeAxes_sub, sub_eq_zero, eq_comm]

theorem way_self : dimensions.way a a = 0 :=
  (dimensions.way_eq_zero_iff a a).mpr rfl

end Dimensions

/-!
# Multiples
-/

namespace Config

variable (config : Config K) (dimensions : Dimensions) (a b : Vec3 K)

theorem pullAlong_way : config.pullAlong (dimensions.way a b) =
    dimensions.way a b * config.tension dimensions a b := by
  apply Vec3.ext_on
  intro axis
  unfold pullAlong tension
  rw [Vec3.on_mul, Vec3.on_div, Vec3.on_mul]
  ring

theorem pushAlong_way : config.pushAlong (dimensions.way a b) =
    dimensions.way a b * config.thrust dimensions a b := by
  apply Vec3.ext_on
  intro axis
  unfold pushAlong thrust
  rw [Vec3.on_mul, Vec3.on_div, Vec3.on_mul]
  ring

theorem tension_comm : config.tension dimensions a b = config.tension dimensions b a := by
  unfold tension
  rw [dimensions.way_comm b a, Vec3.length_neg]

theorem thrust_comm : config.thrust dimensions a b = config.thrust dimensions b a := by
  unfold thrust
  rw [dimensions.way_comm b a, Vec3.lengthSquared_neg]

theorem tension_of_le (h : (dimensions.way a b).length ≤ config.springLength) :
    config.tension dimensions a b = 0 := by
  unfold tension
  have hslack : Scalar.max ((dimensions.way a b).length - config.springLength) 0 = 0 :=
    max_eq_right (sub_nonpos.mpr h)
  rw [hslack, mul_zero, zero_div]

variable [LawfulRoot K] {config}

theorem tension_nonneg (h : 0 ≤ config.attraction) : 0 ≤ config.tension dimensions a b :=
  div_nonneg (mul_nonneg h (le_max_right _ _)) (Vec3.length_nonneg _)

theorem thrust_pos (h : 0 < config.repulsion) {a b : Vec3 K} (hapart : ¬dimensions.Coincide a b) :
    0 < config.thrust dimensions a b := by
  have hsquare : (dimensions.way a b).lengthSquared ≠ 0 := by
    rwa [ne_eq, Vec3.lengthSquared_eq_zero_iff, dimensions.way_eq_zero_iff]
  have hpos := lt_of_le_of_ne (Vec3.lengthSquared_nonneg _) hsquare.symm
  exact div_pos (div_pos h hpos) (LawfulRoot.sqrt_pos hpos)

end Config

namespace Arena

variable (config : Config K) (dimensions : Dimensions)

/-!
# Attraction
-/

theorem share_zero (slot : Nat) (pair : Nat × Nat) : share slot pair (0 : Vec3 K) = 0 := by
  unfold share
  rw [ite_self, ite_self, sub_zero]

variable [LawfulRoot K]

theorem pullShare_between {arena : Arena K} {ends : Nat × Nat} {source target : Node K}
    (hsource : arena.node? ends.1 = some source) (htarget : arena.node? ends.2 = some target)
    (slot : Nat) :
    ((arena.spanBetween? dimensions ends).map (config.pullShare slot)).getD 0 =
      share slot ends (dimensions.way source.position target.position *
        config.tension dimensions source.position target.position) := by
  unfold spanBetween?
  rw [hsource, htarget, Option.bind_some, Option.bind_some]
  have hway : dimensions.activeAxes (target.position - source.position) =
      dimensions.way source.position target.position := rfl
  dsimp only
  rw [hway]
  by_cases hzero : (dimensions.way source.position target.position).length = 0
  · rw [if_pos (beq_iff_eq.mpr hzero), Vec3.length_eq_zero_iff.mp hzero, Vec3.zero_mul, share_zero]
    rfl
  · rw [if_neg (mt beq_iff_eq.mp hzero), ← config.pullAlong_way]
    rfl

section Ends

variable {arena : Arena K} {first second slot : Nat} {node : Node K}

theorem pullShare_source (hnode : arena.node? first = some node) :
    ((arena.spanBetween? dimensions (first, second)).map (config.pullShare first)).getD 0 =
      ((arena.node? second).map fun other =>
        dimensions.way node.position other.position *
          config.tension dimensions node.position other.position).getD 0 := by
  cases hsecond : arena.node? second with
  | none =>
      unfold spanBetween?
      simp [hnode, hsecond]
  | some other =>
      rw [pullShare_between config dimensions hnode hsecond, Option.map_some, Option.getD_some]
      by_cases hloop : second = first
      · subst hloop
        cases hnode.symm.trans hsecond
        rw [dimensions.way_self, Vec3.zero_mul, share_zero]
      · unfold share
        rw [if_pos rfl, if_neg hloop, sub_zero]

theorem pullShare_target (hfirst : first ≠ slot) (hnode : arena.node? slot = some node) :
    ((arena.spanBetween? dimensions (first, slot)).map (config.pullShare slot)).getD 0 =
      ((arena.node? first).map fun other =>
        dimensions.way node.position other.position *
          config.tension dimensions node.position other.position).getD 0 := by
  cases hother : arena.node? first with
  | none =>
      unfold spanBetween?
      simp [hother]
  | some other =>
      rw [pullShare_between config dimensions hother hnode, Option.map_some, Option.getD_some,
        dimensions.way_comm other.position, config.tension_comm dimensions node.position,
        Vec3.neg_mul]
      unfold share
      rw [if_neg hfirst, if_pos rfl, zero_sub]

omit [LawfulRoot K] in
theorem pullShare_beside (hfirst : first ≠ slot) (hsecond : second ≠ slot) :
    ((arena.spanBetween? dimensions (first, second)).map (config.pullShare slot)).getD 0 = 0 := by
  cases hspan : arena.spanBetween? dimensions (first, second) with
  | none =>
      rfl
  | some span =>
      rw [Option.map_some, Option.getD_some]
      unfold Config.pullShare share
      rw [ends_of_spanBetween? hspan, if_neg hfirst, if_neg hsecond, sub_zero]

end Ends

theorem pullAt_eq (edges : Array Edge) {arena : Arena K} {slot : Nat} {node : Node K}
    (hnode : arena.node? slot = some node) :
    arena.pullAt config dimensions edges slot =
      ((arena.tiedTo edges slot).map fun other =>
        dimensions.way node.position other.position *
          config.tension dimensions node.position other.position).sum := by
  unfold pullAt spans tiedTo
  rw [sum_map_filterMap, sum_map_filterMap]
  congr 1
  apply List.map_congr_left
  intro edge _
  unfold span? Edge.farEnd?
  cases edge.endpoints? with
  | none =>
      rfl
  | some ends =>
      rcases ends with ⟨first, second⟩
      simp only [Option.bind_some]
      by_cases hfirst : first = slot
      · subst hfirst
        rw [if_pos rfl]
        exact pullShare_source config dimensions hnode
      · rw [if_neg hfirst]
        by_cases hsecond : second = slot
        · subst hsecond
          rw [if_pos rfl]
          exact pullShare_target config dimensions hfirst hnode
        · rw [if_neg hsecond]
          exact pullShare_beside config dimensions hfirst hsecond

structure AttractsCentrally (edges : Array Edge) (arena : Arena K) : Prop where
  velocity : forall slot,
    (arena.attract config dimensions edges).node? slot =
      (arena.node? slot).map fun node =>
        node.accelerate ((arena.tiedTo edges slot).map fun other =>
          dimensions.way node.position other.position *
            config.tension dimensions node.position other.position).sum
  loop : forall place, dimensions.way place place = (0 : Vec3 K)
  symmetric : forall a b, config.tension dimensions a b = config.tension dimensions b a
  nonneg : forall a b, 0 ≤ config.tension dimensions a b
  slack : forall a b, (dimensions.way a b).length ≤ config.springLength ->
    config.tension dimensions a b = 0
  /-- On no axis does a node get away from the far end of an edge. -/
  towards : forall a b axis,
    0 ≤ (dimensions.way a b * config.tension dimensions a b).on axis * (dimensions.way a b).on axis
  momentum : (arena.attract config dimensions edges).momentum = arena.momentum
  /-- No quotient by zero has entered any velocity. -/
  defined : arena.checked.attract config.checked dimensions edges =
    (arena.attract config dimensions edges).checked

theorem attractsCentrally {config : Config K} (h : 0 ≤ config.attraction) (edges : Array Edge)
    (arena : Arena K) : AttractsCentrally config dimensions edges arena := by
  constructor
  case velocity =>
    intro slot
    rw [attract_eq_impel, node?_impel]
    cases hnode : arena.node? slot with
    | none =>
        rfl
    | some node =>
        rw [Option.map_some, Option.map_some, pullAt_eq config dimensions edges hnode]
  case loop =>
    exact dimensions.way_self
  case symmetric =>
    exact config.tension_comm dimensions
  case nonneg =>
    intro a b
    exact Config.tension_nonneg dimensions a b h
  case slack =>
    exact config.tension_of_le dimensions
  case towards =>
    intro a b axis
    rw [Vec3.on_mul, mul_right_comm]
    exact mul_nonneg (mul_self_nonneg _) (Config.tension_nonneg dimensions a b h)
  case momentum =>
    exact momentum_attract config dimensions edges arena
  case defined =>
    exact attract_checked config dimensions edges arena

/-!
# Repulsion
-/

omit [LawfulRoot K] in
theorem pushShare_eq (pushed pushing : Vec3 K) :
    config.pushShare dimensions pushed pushing =
      if ¬dimensions.Coincide pushing pushed then
        dimensions.way pushing pushed * config.thrust dimensions pushed pushing
      else 0 := by
  have hway : dimensions.activeAxes (pushed - pushing) = dimensions.way pushing pushed := rfl
  unfold Config.pushShare
  rw [Config.push?_eq, hway, config.thrust_comm, ← config.pushAlong_way]
  by_cases hcoincide : dimensions.Coincide pushing pushed
  · have hzero : (dimensions.way pushing pushed).lengthSquared = 0 := by
      rwa [Vec3.lengthSquared_eq_zero_iff, dimensions.way_eq_zero_iff]
    rw [if_pos (beq_iff_eq.mpr hzero), if_neg (not_not_intro hcoincide)]
    rfl
  · have hzero : (dimensions.way pushing pushed).lengthSquared ≠ 0 := by
      rwa [ne_eq, Vec3.lengthSquared_eq_zero_iff, dimensions.way_eq_zero_iff]
    rw [if_neg (mt beq_iff_eq.mp hzero), if_pos hcoincide]
    rfl

omit [LawfulRoot K] in
theorem pushAt_eq {arena : Arena K} {slot : Nat} {node : Node K}
    (hnode : arena.node? slot = some node) :
    arena.pushAt config dimensions slot =
      (((arena.others slot).filter fun other =>
          ¬dimensions.Coincide other.2.position node.position).map fun other =>
        dimensions.way other.2.position node.position *
          config.thrust dimensions node.position other.2.position).sum := by
  unfold pushAt
  rw [hnode, Option.map_some, Option.getD_some]
  simp only [pushShare_eq]
  rw [List.sum_map_ite, List.map_const', List.sum_replicate, smul_zero, add_zero]

structure RepelsCentrally (arena : Arena K) : Prop where
  velocity : forall slot,
    (arena.repel config dimensions).node? slot =
      (arena.node? slot).map fun node =>
        node.accelerate (((arena.others slot).filter fun other =>
            ¬dimensions.Coincide other.2.position node.position).map fun other =>
          dimensions.way other.2.position node.position *
            config.thrust dimensions node.position other.2.position).sum
  symmetric : forall a b, config.thrust dimensions a b = config.thrust dimensions b a
  positive : forall {a b}, ¬dimensions.Coincide a b -> 0 < config.thrust dimensions a b
  momentum : (arena.repel config dimensions).momentum = arena.momentum
  defined : arena.checked.repel config.checked dimensions =
    (arena.repel config dimensions).checked

theorem repelsCentrally {config : Config K} (h : 0 < config.repulsion) (arena : Arena K) :
    RepelsCentrally config dimensions arena := by
  constructor
  case velocity =>
    intro slot
    rw [repel_eq_impel, node?_impel]
    cases hnode : arena.node? slot with
    | none =>
        rfl
    | some node =>
        rw [Option.map_some, Option.map_some, pushAt_eq config dimensions hnode]
  case symmetric =>
    exact config.thrust_comm dimensions
  case positive =>
    intro a b
    exact Config.thrust_pos dimensions h
  case momentum =>
    exact momentum_repel config dimensions arena
  case defined =>
    exact repel_checked config dimensions arena

/-!
# Both forces
-/

/-- Attraction and repulsion act along the ways between nodes, equally in both directions and
with the right sign. -/
theorem forces_central {K : Type} [ExactScalar K] [LawfulRoot K] {config : Config K}
    (hattraction : 0 ≤ config.attraction) (hrepulsion : 0 < config.repulsion)
    (dimensions : Dimensions) (edges : Array Edge) (arena : Arena K) :
    AttractsCentrally config dimensions edges arena ∧ RepelsCentrally config dimensions arena :=
  ⟨attractsCentrally dimensions hattraction edges arena,
    repelsCentrally dimensions hrepulsion arena⟩

noncomputable def bow : Arena Real where
  slots := #[some (.atRest ⟨1⟩ ⟨0, 0, 0⟩ .empty), none, some (.atRest ⟨2⟩ ⟨300, 400, 0⟩ .empty),
    some (.atRest ⟨3⟩ ⟨300, 400, 0⟩ .empty)]
  vacant := [1]
  links := []

def bowEdges : Array Edge :=
  #[⟨⟨-1⟩, some 0, some 2, .empty⟩, ⟨⟨-2⟩, some 2, some 0, .empty⟩, ⟨⟨-3⟩, some 2, some 2, .empty⟩,
    ⟨⟨-4⟩, some 0, some 1, .empty⟩]

theorem forces_central_bow :
    let config : Config Real := .default
    0 ≤ config.attraction ∧ 0 < config.repulsion ∧
      AttractsCentrally config .three bowEdges bow ∧ RepelsCentrally config .three bow := by
  intro config
  have hattraction : 0 ≤ config.attraction := by
    change (0 : Real) ≤ 0.1
    norm_num
  have hrepulsion : 0 < config.repulsion := by
    change (0 : Real) < 100000.0
    norm_num
  exact ⟨hattraction, hrepulsion, forces_central hattraction hrepulsion .three bowEdges bow⟩

end Arena
end GraphLayout
