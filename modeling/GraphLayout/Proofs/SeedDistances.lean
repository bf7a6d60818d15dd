import GraphLayout.Proofs.CentralForces
import GraphLayout.Proofs.Seeding
import Mathlib.Tactic.LinearCombination

/-!
# Distances between seeds

In exact arithmetic the angles of the spiral grow by a tenth with every call, and the points that
it gives move outwards. In the plane the whole of a point does so; in space it is the first and the
third component, as the two terms of the second one may cancel. No point is given twice, and so
the first step of a simulation leaves out no pair of nodes.
-/

namespace GraphLayout

class LawfulAngle (K : Type) [ExactScalar K] : Prop where
  sin_mul_self_add_cos_mul_self (angle : K) :
    ExactScalar.sin angle * ExactScalar.sin angle +
      ExactScalar.cos angle * ExactScalar.cos angle = 1

instance : LawfulAngle Real where
  sin_mul_self_add_cos_mul_self angle := by
    rw [← pow_two, ← pow_two]
    exact Real.sin_sq_add_cos_sq angle

variable {K : Type} [ExactScalar K]

/-!
# Lengths
-/

namespace Vec3

def HasLength (a : Vec3 K) (r : K) : Prop :=
  0 ≤ r ∧ r * r = a.lengthSquared

theorem HasLength.unique {a : Vec3 K} {r s : K} (hr : a.HasLength r) (hs : a.HasLength s) :
    r = s :=
  (mul_self_inj hr.1 hs.1).mp (hr.2.trans hs.2.symm)

theorem hasLength_length [LawfulRoot K] (a : Vec3 K) : a.HasLength a.length :=
  ⟨a.length_nonneg, LawfulRoot.mul_self_sqrt a.lengthSquared_nonneg⟩

theorem map_length_of_hasLength [LawfulRoot K] {vectors : List (Vec3 K)} {lengths : List K}
    (h : List.Forall₂ HasLength vectors lengths) : vectors.map length = lengths := by
  induction h with
  | nil =>
      rfl
  | cons hhead _ ih =>
      rw [List.map_cons, ih, (hasLength_length _).unique hhead]

end Vec3

/-!
# The spiral
-/

namespace Spiral

theorem after_eq (n : Nat) :
    (after n : Spiral K) = ⟨1 / 10 * ((n : K) + 1), 1 / 10 * ((n : K) + 1)⟩ := by
  have htenth : (Scalar.toOfScientific.ofScientific 1 true 1 : K) = 1 / 10 := by
    rw [ExactScalar.literal]
    norm_num
  induction n with
  | zero =>
      rw [Nat.cast_zero, zero_add, mul_one, ← htenth]
      rfl
  | succ n ih =>
      have hstep : 1 / 10 * ((n : K) + 1) + Scalar.toOfScientific.ofScientific 1 true 1 =
          1 / 10 * (((n + 1 : Nat) : K) + 1) := by
        rw [htenth, Nat.cast_succ, mul_add_one _ ((n : K) + 1)]
      rw [← hstep]
      change (after n : Spiral K).advance = _
      rw [ih]
      rfl

theorem distance_after (n : Nat) : (after n : Spiral K).distance = (n : K) + 1 := by
  have hten : (Scalar.toOfScientific.ofScientific 100 true 1 : K) = 10 := by
    rw [ExactScalar.literal]
    norm_num
  change Scalar.toOfScientific.ofScientific 100 true 1 * (after n : Spiral K).turn = _
  rw [hten, after_eq, ← mul_assoc, mul_one_div_cancel (by norm_num), one_mul]

theorem strictMono_distance_after : StrictMono fun n => (after n : Spiral K).distance := by
  intro m n hlt
  simp only [distance_after]
  exact add_lt_add_left (Nat.cast_lt.mpr hlt) 1

def outward {α : Type} [Zero α] (dimensions : Dimensions) (point : Vec3 α) : Vec3 α :=
  match dimensions with
  | .two => point
  | .three => ⟨point.x, 0, point.z⟩

variable [LawfulAngle K]

/-- Both angles are the same, so that the sine and the cosine of one angle meet in space too. -/
theorem hasLength_outward_point (dimensions : Dimensions) (n : Nat) :
    (outward dimensions ((after n : Spiral K).point dimensions)).HasLength
      (after n : Spiral K).distance := by
  have hlift : (after n : Spiral K).lift = (after n : Spiral K).turn := by
    rw [after_eq]
  have hcircle := LawfulAngle.sin_mul_self_add_cos_mul_self (after n : Spiral K).turn
  constructor
  · rw [distance_after]
    positivity
  · cases dimensions with
    | two =>
        change _ = ExactScalar.cos (after n).turn * (after n).distance *
            (ExactScalar.cos (after n).turn * (after n).distance) +
          ExactScalar.sin (after n).turn * (after n).distance *
            (ExactScalar.sin (after n).turn * (after n).distance) + 0 * 0
        linear_combination -(after n : Spiral K).distance ^ 2 * hcircle
    | three =>
        change _ = ExactScalar.cos (after n).turn * (after n).distance *
            (ExactScalar.cos (after n).turn * (after n).distance) + 0 * 0 +
          ExactScalar.sin (after n).lift * (after n).distance *
            (ExactScalar.sin (after n).lift * (after n).distance)
        rw [hlift]
        linear_combination -(after n : Spiral K).distance ^ 2 * hcircle

theorem point_after_injective (dimensions : Dimensions) :
    Function.Injective fun n => (after n : Spiral K).point dimensions := by
  intro m n hpoint
  have hm := hasLength_outward_point (K := K) dimensions m
  change (after m).point dimensions = (after n).point dimensions at hpoint
  rw [hpoint] at hm
  exact strictMono_distance_after.injective (hm.unique (hasLength_outward_point dimensions n))

theorem activeAxes_point {α : Type} [Scalar α] (dimensions : Dimensions) (spiral : Spiral α) :
    dimensions.activeAxes (spiral.point dimensions) = spiral.point dimensions := by
  cases dimensions <;> rfl

theorem exists_lengths_nexts (calls : List Dimensions) :
    exists lengths : List K,
      List.Forall₂ Vec3.HasLength (calls.zipWith outward (nexts calls start).1) lengths ∧
        lengths.Pairwise (· < ·) := by
  have hcalls : nexts calls (start : Spiral K) = _ := nexts_after calls 0
  have houtward : calls.zipWith outward (nexts calls (start : Spiral K)).1 =
      calls.zipIdx.map fun call => outward call.1 ((after (call.2 + 1)).point call.1) := by
    rw [hcalls]
    nth_rewrite 1 [← List.zipIdx_map_fst 0 calls]
    rw [List.zipWith_map, List.zipWith_self]
  refine ⟨calls.zipIdx.map fun call => (after (call.2 + 1)).distance, ?_, ?_⟩
  · rw [houtward, List.forall₂_map_left_iff, List.forall₂_map_right_iff, List.forall₂_same]
    intro call _
    exact hasLength_outward_point call.1 (call.2 + 1)
  · have hplaces : (calls.zipIdx.map Prod.snd).Pairwise (· < ·) := by
      rw [List.zipIdx_map_snd]
      exact List.pairwise_lt_range'
    rw [List.pairwise_map]
    apply (List.pairwise_map.mp hplaces).imp
    intro earlier later hlt
    exact strictMono_distance_after (Nat.succ_lt_succ hlt)

end Spiral

/-!
# Pairs that repulsion leaves out
-/

theorem Config.isSome_push?_iff (config : Config K) (dimensions : Dimensions)
    (pushed pushing : Vec3 K) :
    (config.push? dimensions pushed pushing).isSome = true <->
      ¬dimensions.Coincide pushing pushed := by
  rw [Config.push?_eq, ← dimensions.way_eq_zero_iff, ← Vec3.lengthSquared_eq_zero_iff]
  change (if (dimensions.way pushing pushed).lengthSquared == 0 then none
    else _).isSome = true <-> _
  by_cases hzero : (dimensions.way pushing pushed).lengthSquared = 0
  · rw [if_pos (beq_iff_eq.mpr hzero)]
    simp [hzero]
  · rw [if_neg (mt beq_iff_eq.mp hzero)]
    simp [hzero]

namespace Arena

section Walk

variable {α : Type} [Scalar α]

def Scattered (dimensions : Dimensions) (arena : Arena α) : Prop :=
  forall s t a b, arena.node? s = some a -> arena.node? t = some b -> s ≠ t ->
    ¬dimensions.Coincide a.position b.position

/-- Every two present nodes have a turn in the walk of repulsion. When it comes they are not taken
to be at the same place, and the walk goes on from the arena after their push. -/
def RepelsEveryPair (config : Config α) (dimensions : Dimensions) (arena : Arena α) : Prop :=
  forall s t, s < t -> (arena.node? s).isSome = true -> (arena.node? t).isSome = true ->
    exists earlier later, ascendingPairs arena.bound = earlier ++ (s, t) :: later ∧
      let reached := arena.repelPairs config dimensions earlier
      exists a b force, reached.node? s = some a ∧ reached.node? t = some b ∧
        config.push? dimensions a.position b.position = some force ∧
        arena.repel config dimensions =
          (reached.exert s t force).repelPairs config dimensions later

theorem Scattered.of_agreeBy {dimensions : Dimensions} {arena other : Arena α}
    (hagree : AgreeBy Node.position arena other) (h : arena.Scattered dimensions) :
    other.Scattered dimensions := by
  intro s t a b ha hb hne
  rcases hagree.symm.node_after ha with ⟨first, hfirst, hfirstPosition⟩
  rcases hagree.symm.node_after hb with ⟨second, hsecond, hsecondPosition⟩
  rw [← hfirstPosition, ← hsecondPosition]
  exact h s t first second hfirst hsecond hne

theorem agreeBy_position_foldl_interact (law : Vec3 α -> Vec3 α -> Option (Vec3 α))
    (arena : Arena α) (pairs : List (Nat × Nat)) :
    AgreeBy Node.position arena (pairs.foldl (interact law) arena) := by
  intro slot
  rw [node?_foldl_interact, Option.map_map]
  rfl

theorem agreeBy_position_attract (config : Config α) (dimensions : Dimensions)
    (edges : Array Edge) (arena : Arena α) :
    AgreeBy Node.position arena (arena.attract config dimensions edges) := by
  rw [attract_eq_foldl_endpoints]
  exact agreeBy_position_foldl_interact _ arena _

theorem interact_of_force {law : Vec3 α -> Vec3 α -> Option (Vec3 α)} {arena : Arena α} {s t : Nat}
    {a b : Node α} {force : Vec3 α} (ha : arena.node? s = some a) (hb : arena.node? t = some b)
    (hforce : law a.position b.position = some force) :
    arena.interact law (s, t) = arena.exert s t force := by
  simp only [interact, ha, hb, hforce]

omit [Scalar α] in
theorem mem_ascendingPairs_of_node? {arena : Arena α} {s t : Nat} {a b : Node α}
    (ha : arena.node? s = some a) (hb : arena.node? t = some b) (hlt : s < t) :
    (s, t) ∈ ascendingPairs arena.bound := by
  rw [ascendingPairs_eq_orderedPairs]
  exact mem_orderedPairs_of_lt List.pairwise_lt_range (List.mem_range.mpr (lt_bound_of_node? ha))
    (List.mem_range.mpr (lt_bound_of_node? hb)) hlt

end Walk

theorem Scattered.repelsEveryPair {dimensions : Dimensions} {arena : Arena K}
    (h : arena.Scattered dimensions) (config : Config K) :
    arena.RepelsEveryPair config dimensions := by
  intro s t hlt hs ht
  rcases Option.isSome_iff_exists.mp hs with ⟨first, hfirst⟩
  rcases Option.isSome_iff_exists.mp ht with ⟨second, hsecond⟩
  rcases List.append_of_mem (mem_ascendingPairs_of_node? hfirst hsecond hlt) with
    ⟨earlier, later, hturn⟩
  have hreached := agreeBy_position_foldl_interact (config.push? dimensions) arena earlier
  rcases hreached.node_after hfirst with ⟨a, ha, haPosition⟩
  rcases hreached.node_after hsecond with ⟨b, hb, hbPosition⟩
  have hpush : (config.push? dimensions a.position b.position).isSome = true := by
    rw [Config.isSome_push?_iff, haPosition, hbPosition]
    exact h t s second first hsecond hfirst (Nat.ne_of_gt hlt)
  rcases Option.isSome_iff_exists.mp hpush with ⟨force, hforce⟩
  refine ⟨earlier, later, hturn, a, b, force, ha, hb, hforce, ?_⟩
  unfold repel repelPairs
  rw [hturn, List.foldl_append, List.foldl_cons, interact_of_force ha hb hforce]

end Arena

namespace Layout

open Spiral (outward nexts)

/-!
# Loaded nodes
-/

theorem Seeded.position {origin layout : Layout K} (h : Seeded origin layout) {slot : Nat}
    {node : Node K} (hnode : layout.arena.node? slot = some node) :
    node.position = (Spiral.after (slot + 1)).point origin.dimensions := by
  have hbody := h.bodies slot
  rw [hnode] at hbody
  split at hbody
  · exact congrArg Prod.fst (Option.some.inj hbody)
  · cases hbody

variable [LawfulAngle K]

theorem Seeded.nodup_positions {origin layout : Layout K} (h : Seeded origin layout) :
    layout.arena.positions.Nodup := by
  have hpoints := congrArg (List.map Prod.fst) h.map_body_nodes
  rw [List.map_map, List.map_map, Spiral.fst_nexts_replicate, List.map_map] at hpoints
  change layout.arena.positions = _ at hpoints
  rw [hpoints]
  apply List.nodup_range.map
  intro m n hpoint
  exact Nat.succ.inj (Spiral.point_after_injective origin.dimensions hpoint)

theorem Seeded.scattered {origin layout : Layout K} (h : Seeded origin layout) :
    layout.arena.Scattered origin.dimensions := by
  intro s t a b ha hb hne hcoincide
  unfold Dimensions.Coincide at hcoincide
  rw [h.position ha, h.position hb, Spiral.activeAxes_point, Spiral.activeAxes_point] at hcoincide
  exact hne (Nat.succ.inj (Spiral.point_after_injective origin.dimensions hcoincide))

/-- A field need not have roots. In one without them the lengths are those numbers whose squares are
the right ones. -/
theorem seeds_stand_apart :
    (forall calls : List Dimensions,
      let points := (nexts calls (Spiral.start : Spiral K)).1
      let last := (nexts calls (Spiral.start : Spiral K)).2
      last.turn = 1 / 10 * ((calls.length : K) + 1) ∧ last.lift = last.turn ∧
        (exists lengths : List K,
          List.Forall₂ Vec3.HasLength (calls.zipWith outward points) lengths ∧
            lengths.Pairwise (· < ·)) ∧
        (LawfulRoot K ->
          ((calls.zipWith outward points).map Vec3.length).Pairwise (· < ·))) ∧
      forall (layout : Layout K) (graph : Graph),
        let loaded := (layout.load graph).1
        loaded.arena.positions.Nodup ∧
          (loaded.arena.attract loaded.config loaded.dimensions loaded.edges).RepelsEveryPair
            loaded.config loaded.dimensions := by
  constructor
  · intro calls points last
    have hcalls : nexts calls (Spiral.start : Spiral K) = _ := Spiral.nexts_after calls 0
    have hlast : last = Spiral.after calls.length := by
      change (nexts calls (Spiral.start : Spiral K)).2 = _
      rw [hcalls, Nat.zero_add]
    rcases Spiral.exists_lengths_nexts (K := K) calls with ⟨lengths, hlengths, hincreasing⟩
    refine ⟨by rw [hlast, Spiral.after_eq], by rw [hlast, Spiral.after_eq],
      ⟨lengths, hlengths, hincreasing⟩, ?_⟩
    intro _
    rw [Vec3.map_length_of_hasLength hlengths]
    exact hincreasing
  · intro layout graph loaded
    have hseeded := seeded_load layout graph
    have hdimensions : loaded.dimensions = layout.dimensions := hseeded.dimensions
    refine ⟨hseeded.nodup_positions, ?_⟩
    rw [hdimensions]
    have hattracted := Arena.agreeBy_position_attract loaded.config layout.dimensions loaded.edges
      loaded.arena
    exact (hseeded.scattered.of_agreeBy hattracted).repelsEveryPair loaded.config

theorem seeds_stand_apart_twins :
    let calls : List Dimensions := [.two, .three, .three]
    let points := (nexts calls (Spiral.start : Spiral Real)).1
    let last := (nexts calls (Spiral.start : Spiral Real)).2
    let graph : Graph := ⟨[.node 1 .empty, .node 2 .empty, .edge (-1) 2 2 .empty, .node 1 .empty]⟩
    let loaded := ((new .three (Config.default : Config Real)).load graph).1
    last.turn = 1 / 10 * (((3 : Nat) : Real) + 1) ∧ last.lift = last.turn ∧
      ((calls.zipWith outward points).map Vec3.length).Pairwise (· < ·) ∧
      loaded.arena.positions.Nodup ∧
      (loaded.arena.attract loaded.config loaded.dimensions loaded.edges).RepelsEveryPair
        loaded.config loaded.dimensions := by
  intro calls points last graph loaded
  rcases seeds_stand_apart (K := Real) with ⟨hcalls, hloads⟩
  rcases hcalls calls with ⟨hturn, hlift, _, hlengths⟩
  rcases hloads (new .three .default) graph with ⟨hnodup, hrepels⟩
  exact ⟨hturn, hlift, hlengths inferInstance, hnodup, hrepels⟩

end Layout
end GraphLayout
