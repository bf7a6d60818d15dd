import GraphLayout.Bounds
import GraphLayout.Proofs.Arena.Slots
import GraphLayout.Proofs.Readings

/-!
# Bounds by values

The box around the nodes of an arena, for scalars that are read by their values. Coordinates
without a value are passed over on their axis, and count on the others: an end of the box has no
value if no node has one there, and otherwise the least or the greatest value of a node.
-/

namespace GraphLayout

/-!
# Axes
-/

inductive Axis where
  | x
  | y
  | z
  deriving DecidableEq

def Vec3.on {α : Type} (axis : Axis) (a : Vec3 α) : α :=
  match axis with
  | .x => a.x
  | .y => a.y
  | .z => a.z

namespace Vec3

theorem ext_on {α : Type} {a b : Vec3 α} (h : forall axis, a.on axis = b.on axis) : a = b := by
  have hx : a.x = b.x := h .x
  have hy : a.y = b.y := h .y
  have hz : a.z = b.z := h .z
  cases a
  cases b
  simp only at hx hy hz
  rw [hx, hy, hz]

variable {α : Type} [Scalar α] (axis : Axis) (a b : Vec3 α)

theorem on_min : (a.min b).on axis = Scalar.min (a.on axis) (b.on axis) := by
  cases axis <;> rfl

theorem on_max : (a.max b).on axis = Scalar.max (a.on axis) (b.on axis) := by
  cases axis <;> rfl

end Vec3

/-!
# Extreme values
-/

variable {L : Type}

/-- An end of a box: which value of a set is meant, and how it is found among two. -/
structure Picks (extreme : Set L -> L -> Prop) (pick : L -> L -> L) : Prop where
  singleton (v : L) : extreme {v} v
  union {S T : Set L} {v w : L} : extreme S v -> extreme T w -> extreme (S ∪ T) (pick v w)
  nonempty {S : Set L} {v : L} : extreme S v -> S.Nonempty
  unique {S : Set L} {v w : L} : extreme S v -> extreme S w -> v = w

theorem picks_least [LinearOrder L] : Picks (@IsLeast L _) Min.min where
  singleton _ := isLeast_singleton
  union := IsLeast.union
  nonempty h := h.nonempty
  unique := IsLeast.unique

theorem picks_greatest [LinearOrder L] : Picks (@IsGreatest L _) Max.max where
  singleton _ := isGreatest_singleton
  union := IsGreatest.union
  nonempty h := h.nonempty
  unique := IsGreatest.unique

def Attains (extreme : Set L -> L -> Prop) (values : Set L) : Option L -> Prop
  | none => values = ∅
  | some v => extreme values v

namespace Attains

variable {extreme : Set L -> L -> Prop} {pick : L -> L -> L} {S T : Set L} {x y : Option L}

theorem of_option (hpicks : Picks extreme pick) (x : Option L) :
    Attains extreme {v | x = some v} x := by
  cases x with
  | none =>
      have hset : {v : L | none = some v} = ∅ := by
        ext v
        simp
      exact hset
  | some v =>
      have hset : {w | some v = some w} = {v} := by
        ext w
        simp [eq_comm]
      rw [hset]
      exact hpicks.singleton v

theorem merge (hpicks : Picks extreme pick) (hx : Attains extreme S x)
    (hy : Attains extreme T y) : Attains extreme (S ∪ T) (Option.merge pick x y) := by
  cases x with
  | none =>
      have hempty : S = ∅ := hx
      rw [hempty, Set.empty_union, Option.merge_none_left]
      exact hy
  | some v =>
      cases y with
      | none =>
          have hempty : T = ∅ := hy
          rw [hempty, Set.union_empty, Option.merge_none_right]
          exact hx
      | some w =>
          exact hpicks.union hx hy

theorem of_eq_some {v : L} (hx : Attains extreme S x) (hv : x = some v) : extreme S v := by
  rw [hv] at hx
  exact hx

theorem eq_none_iff (hpicks : Picks extreme pick) (hx : Attains extreme S x) :
    x = none <-> S = ∅ := by
  constructor
  · rintro rfl
    exact hx
  · intro hempty
    cases x with
    | none =>
        rfl
    | some v =>
        exact absurd hempty (hpicks.nonempty hx).ne_empty

theorem unique (hpicks : Picks extreme pick) (hx : Attains extreme S x)
    (hy : Attains extreme S y) : x = y := by
  cases y with
  | none =>
      exact (hx.eq_none_iff hpicks).mpr hy
  | some w =>
      cases x with
      | none =>
          exact absurd hx (hpicks.nonempty hy).ne_empty
      | some v =>
          exact congrArg some (hpicks.unique hx hy)

end Attains

variable [LinearOrder L] {α : Type} [Scalar α]

/-!
# Boxes around points
-/

theorem BoundingBox.ofList?_eq_none_iff {points : List (Vec3 α)} :
    ofList? points = none <-> points = [] := by
  cases points <;> simp [ofList?]

namespace Scalar.Reading

open BoundingBox (ofList? ofList?_eq_none_iff)

def values (reading : Reading α L) (axis : Axis) (points : List (Vec3 α)) : Set L :=
  {v | exists point, point ∈ points ∧ reading.value? (point.on axis) = some v}

def ends (reading : Reading α L) (box : BoundingBox α) (axis : Axis) : Option L × Option L :=
  (reading.value? (box.min.on axis), reading.value? (box.max.on axis))

structure Tight (reading : Reading α L) (box : BoundingBox α) (points : List (Vec3 α)) :
    Prop where
  least : forall axis, Attains IsLeast (reading.values axis points) (reading.ends box axis).1
  greatest : forall axis, Attains IsGreatest (reading.values axis points) (reading.ends box axis).2

variable {reading : Reading α L} {axis : Axis} {points others : List (Vec3 α)}
  {box other : BoundingBox α}

theorem values_singleton (point : Vec3 α) :
    reading.values axis [point] = {v | reading.value? (point.on axis) = some v} := by
  ext v
  simp [values]

theorem values_append_singleton (point : Vec3 α) :
    reading.values axis (points ++ [point]) =
      reading.values axis points ∪ {v | reading.value? (point.on axis) = some v} := by
  ext v
  simp [values, or_and_right, exists_or]

theorem values_eq_empty_iff :
    reading.values axis points = ∅ <->
      forall point, point ∈ points -> reading.value? (point.on axis) = none := by
  unfold values
  rw [Set.eq_empty_iff_forall_notMem]
  constructor
  · intro h point hpoint
    rw [Option.eq_none_iff_forall_ne_some]
    intro v hv
    exact h v ⟨point, hpoint, hv⟩
  · rintro h v ⟨point, hpoint, hv⟩
    rw [h point hpoint] at hv
    cases hv

theorem values_congr (h : forall point, point ∈ others <-> point ∈ points) :
    reading.values axis others = reading.values axis points := by
  unfold values
  simp only [h]

theorem tight_ofPoint (point : Vec3 α) : reading.Tight (.ofPoint point) [point] where
  least axis := by
    rw [values_singleton]
    exact .of_option picks_least _
  greatest axis := by
    rw [values_singleton]
    exact .of_option picks_greatest _

namespace Tight

theorem extend (h : reading.Tight box points) (point : Vec3 α) :
    reading.Tight (box.extend point) (points ++ [point]) where
  least axis := by
    unfold ends BoundingBox.extend
    rw [values_append_singleton, Vec3.on_min, reading.value?_min]
    exact (h.least axis).merge picks_least (.of_option picks_least _)
  greatest axis := by
    unfold ends BoundingBox.extend
    rw [values_append_singleton, Vec3.on_max, reading.value?_max]
    exact (h.greatest axis).merge picks_greatest (.of_option picks_greatest _)

theorem foldl_extend (h : reading.Tight box points) (rest : List (Vec3 α)) :
    reading.Tight (rest.foldl BoundingBox.extend box) (points ++ rest) := by
  induction rest generalizing box points with
  | nil =>
      rw [List.append_nil]
      exact h
  | cons point rest ih =>
      rw [List.append_cons]
      exact ih (h.extend point)

theorem ends_eq (h : reading.Tight box points) (h' : reading.Tight other others)
    (hpoints : forall point, point ∈ others <-> point ∈ points) :
    reading.ends other = reading.ends box := by
  funext axis
  have hleast := h'.least axis
  have hgreatest := h'.greatest axis
  rw [values_congr hpoints] at hleast hgreatest
  exact Prod.ext (hleast.unique picks_least (h.least axis))
    (hgreatest.unique picks_greatest (h.greatest axis))

end Tight

theorem tight_of_ofList? (h : ofList? points = some box) : reading.Tight box points := by
  cases points with
  | nil =>
      cases h
  | cons first rest =>
      cases h
      exact (tight_ofPoint first).foldl_extend rest

/-- The ends have no other values if the points come in another order or more than once. -/
theorem map_ends_ofList? (hpoints : forall point, point ∈ others <-> point ∈ points) :
    (ofList? others).map reading.ends = (ofList? points).map reading.ends := by
  have hempty : others = [] <-> points = [] := by
    simp only [List.eq_nil_iff_forall_not_mem, hpoints]
  cases hbox : ofList? points with
  | none =>
      have hnone : ofList? others = none :=
        ofList?_eq_none_iff.mpr (hempty.mpr (ofList?_eq_none_iff.mp hbox))
      rw [hnone]
  | some box =>
      cases hother : ofList? others with
      | none =>
          rw [ofList?_eq_none_iff, hempty, ← ofList?_eq_none_iff, hbox] at hother
          cases hother
      | some other =>
          have htight : reading.Tight box points := tight_of_ofList? hbox
          exact congrArg some (htight.ends_eq (tight_of_ofList? hother) hpoints)

end Scalar.Reading

/-!
# Boxes around nodes
-/

namespace Arena

open Scalar (Reading)

omit [Scalar α] in
theorem mem_positions {arena : Arena α} {point : Vec3 α} :
    point ∈ arena.positions <->
      exists slot node, arena.node? slot = some node ∧ node.position = point := by
  unfold positions
  rw [List.mem_map, nodes_eq_map_occupied]
  constructor
  · rintro ⟨node, hnode, rfl⟩
    rcases List.mem_map.mp hnode with ⟨⟨slot, node⟩, hmem, rfl⟩
    exact ⟨slot, node, mem_occupied.mp hmem, rfl⟩
  · rintro ⟨slot, node, hnode, rfl⟩
    exact ⟨node, List.mem_map.mpr ⟨(slot, node), mem_occupied.mpr hnode, rfl⟩, rfl⟩

theorem bounds?_eq_none_iff {arena : Arena α} :
    arena.bounds? = none <-> forall slot, arena.node? slot = none := by
  unfold bounds?
  rw [BoundingBox.ofList?_eq_none_iff, List.eq_nil_iff_forall_not_mem]
  constructor
  · intro h slot
    rw [Option.eq_none_iff_forall_ne_some]
    intro node hnode
    exact h node.position (mem_positions.mpr ⟨slot, node, hnode, rfl⟩)
  · intro h point hpoint
    rcases mem_positions.mp hpoint with ⟨slot, node, hnode, _⟩
    rw [h slot] at hnode
    cases hnode

end Arena

namespace Scalar.Reading

def nodeValues (reading : Reading α L) (axis : Axis) (arena : Arena α) : Set L :=
  {v | exists slot node, arena.node? slot = some node ∧
    reading.value? (node.position.on axis) = some v}

def Valueless (reading : Reading α L) (axis : Axis) (arena : Arena α) : Prop :=
  forall slot node, arena.node? slot = some node ->
    reading.value? (node.position.on axis) = none

/-- The box with the extreme values of the present nodes. Where no node has a value, the box has
none. -/
structure TightAround (reading : Reading α L) (arena : Arena α) (box : BoundingBox α) : Prop where
  min_valueless_iff : forall axis,
    reading.value? (box.min.on axis) = none <-> reading.Valueless axis arena
  max_valueless_iff : forall axis,
    reading.value? (box.max.on axis) = none <-> reading.Valueless axis arena
  least : forall axis v, reading.value? (box.min.on axis) = some v ->
    IsLeast (reading.nodeValues axis arena) v
  greatest : forall axis v, reading.value? (box.max.on axis) = some v ->
    IsGreatest (reading.nodeValues axis arena) v

variable {reading : Reading α L} {arena : Arena α}

theorem values_positions (axis : Axis) :
    reading.values axis arena.positions = reading.nodeValues axis arena := by
  ext v
  simp [values, nodeValues, Arena.mem_positions]

theorem nodeValues_eq_empty_iff {axis : Axis} :
    reading.nodeValues axis arena = ∅ <-> reading.Valueless axis arena := by
  rw [← values_positions, values_eq_empty_iff]
  simp only [Arena.mem_positions]
  constructor
  · intro h slot node hnode
    exact h node.position ⟨slot, node, hnode, rfl⟩
  · rintro h _ ⟨slot, node, hnode, rfl⟩
    exact h slot node hnode

theorem Tight.around {box : BoundingBox α} (h : reading.Tight box arena.positions) :
    reading.TightAround arena box := by
  have hleast : forall axis,
      Attains IsLeast (reading.nodeValues axis arena) (reading.value? (box.min.on axis)) := by
    intro axis
    rw [← values_positions]
    exact h.least axis
  have hgreatest : forall axis,
      Attains IsGreatest (reading.nodeValues axis arena) (reading.value? (box.max.on axis)) := by
    intro axis
    rw [← values_positions]
    exact h.greatest axis
  constructor
  case min_valueless_iff =>
    intro axis
    rw [← nodeValues_eq_empty_iff]
    exact (hleast axis).eq_none_iff picks_least
  case max_valueless_iff =>
    intro axis
    rw [← nodeValues_eq_empty_iff]
    exact (hgreatest axis).eq_none_iff picks_greatest
  case least =>
    intro axis v hv
    exact (hleast axis).of_eq_some hv
  case greatest =>
    intro axis v hv
    exact (hgreatest axis).of_eq_some hv

end Scalar.Reading

namespace Arena

open Scalar (Reading)

/-- The ends of the box have the same values whatever slots are vacant, in whatever order the nodes
come, and however many of them share a place. -/
theorem bounds_tightAround (reading : Reading α L) (arena : Arena α) :
    (arena.bounds? = none <-> forall slot, arena.node? slot = none) ∧
      (forall box, arena.bounds? = some box -> reading.TightAround arena box) ∧
      forall other : Arena α, (forall point, point ∈ other.positions <-> point ∈ arena.positions) ->
        other.bounds?.map reading.ends = arena.bounds?.map reading.ends := by
  refine ⟨bounds?_eq_none_iff, ?_, ?_⟩
  · intro box hbox
    have htight : reading.Tight box arena.positions := Reading.tight_of_ofList? hbox
    exact htight.around
  · intro other hpositions
    exact Reading.map_ends_ofList? hpositions

def notANumber : Float :=
  0.0 / 0.0

def patchy : Arena Float where
  slots := #[some (.atRest ⟨1⟩ ⟨notANumber, 0.0, notANumber⟩ .empty), none,
    some (.atRest ⟨2⟩ ⟨4.0, -0.0, notANumber⟩ .empty),
    some (.atRest ⟨3⟩ ⟨-1.0, notANumber, notANumber⟩ .empty)]
  vacant := [1]
  links := []

def turned : Arena Float where
  slots := #[some (.atRest ⟨3⟩ ⟨-1.0, notANumber, notANumber⟩ .empty),
    some (.atRest ⟨2⟩ ⟨4.0, -0.0, notANumber⟩ .empty),
    some (.atRest ⟨1⟩ ⟨notANumber, 0.0, notANumber⟩ .empty)]
  vacant := []
  links := []

theorem bounds_tightAround_patchy :
    exists box : BoundingBox Float, patchy.bounds? = some box ∧
      box.min.x = -1.0 ∧ box.max.x = 4.0 ∧ box.min.z.isNaN = true ∧
      Reading.float.TightAround patchy box ∧
      turned.bounds?.map Reading.float.ends = patchy.bounds?.map Reading.float.ends := by
  rcases bounds_tightAround Reading.float patchy with ⟨_, htight, hpositions⟩
  have hperm : turned.positions.Perm patchy.positions := List.reverse_perm patchy.positions
  exact ⟨_, rfl, rfl, rfl, rfl, htight _ rfl, hpositions turned fun point => hperm.mem_iff⟩

end Arena
end GraphLayout
