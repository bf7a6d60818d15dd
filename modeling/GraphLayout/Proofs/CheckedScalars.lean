import GraphLayout.Proofs.Exact
import GraphLayout.Bounds

/-!
# Divisions by zero

In a field the quotient of a number by zero is some number. Checked scalars have no number for
it: a quotient by zero is missing, and so is whatever is computed from something missing. Where
a computation over checked scalars gives the numbers that it gives over the field, no quotient
by zero has entered them.
-/

namespace GraphLayout

def Checked (K : Type) : Type :=
  Option K

namespace Checked

variable {K : Type}

def number (a : K) : Checked K :=
  some a

def map₁ (f : K -> K) (a : Checked K) : Checked K :=
  Option.map f a

def map₂ (f : K -> K -> K) (a b : Checked K) : Checked K :=
  Option.map₂ f a b

/-- A test fails on what is missing. -/
def test (p : K -> K -> Bool) (a b : Checked K) : Bool :=
  (Option.map₂ p a b).getD false

variable [ExactScalar K]

def div (a b : Checked K) : Checked K :=
  Option.bind a fun dividend =>
    Option.bind b fun divisor =>
      if divisor = 0 then none else some (dividend / divisor)

instance : Scalar (Checked K) where
  zero := number 0
  add := map₂ (· + ·)
  sub := map₂ (· - ·)
  mul := map₂ (· * ·)
  div := div
  neg := map₁ (-·)
  beq := test (· == ·)
  ofScientific mantissa negative exponent :=
    number (OfScientific.ofScientific mantissa negative exponent)
  sqrt := map₁ ExactScalar.sqrt
  sin := map₁ ExactScalar.sin
  cos := map₁ ExactScalar.cos
  min := map₂ Min.min
  max := map₂ Max.max
  ble := test fun a b => decide (a ≤ b)

theorem number_div (a : K) {b : K} (h : b ≠ 0) : number a / number b = number (a / b) :=
  if_neg h

end Checked

/-!
# Checked copies
-/

open Checked (number)

def Vec3.checked {K : Type} (a : Vec3 K) : Vec3 (Checked K) :=
  ⟨number a.x, number a.y, number a.z⟩

def BoundingBox.checked {K : Type} (box : BoundingBox K) : BoundingBox (Checked K) :=
  ⟨box.min.checked, box.max.checked⟩

def Node.checked {K : Type} (node : Node K) : Node (Checked K) where
  id := node.id
  position := node.position.checked
  velocity := node.velocity.checked
  attributes := node.attributes

namespace Arena

variable {K : Type}

def checked (arena : Arena K) : Arena (Checked K) where
  slots := arena.slots.map (Option.map Node.checked)
  vacant := arena.vacant
  links := arena.links

theorem nodes_checked (arena : Arena K) : arena.checked.nodes = arena.nodes.map Node.checked :=
  filterMap_id_map_slots Node.checked arena.slots

theorem positions_checked (arena : Arena K) :
    arena.checked.positions = arena.positions.map Vec3.checked := by
  unfold positions
  rw [nodes_checked, List.map_map, List.map_map]
  rfl

theorem map_checked (arena : Arena K) {f : Node K -> Node K}
    {g : Node (Checked K) -> Node (Checked K)}
    (h : forall node, g node.checked = (f node).checked) :
    arena.checked.map g = (arena.map f).checked := by
  have hslots : (arena.slots.map (Option.map Node.checked)).map (Option.map g) =
      (arena.slots.map (Option.map f)).map (Option.map Node.checked) := by
    rw [Array.map_map, Array.map_map]
    congr 1
    funext entry
    cases entry with
    | none =>
        rfl
    | some node =>
        exact congrArg some (h node)
  unfold map checked
  rw [hslots]

end Arena

/-!
# Rescaling
-/

theorem Vec3.div_checked {K : Type} [ExactScalar K] (a : Vec3 K) {s : K} (h : s ≠ 0) :
    a.checked / number s = (a / s).checked := by
  change (⟨number a.x / number s, number a.y / number s, number a.z / number s⟩ :
    Vec3 (Checked K)) = ⟨number (a.x / s), number (a.y / s), number (a.z / s)⟩
  rw [Checked.number_div a.x h, Checked.number_div a.y h, Checked.number_div a.z h]

namespace BoundingBox

variable {K : Type} [ExactScalar K]

theorem extend_checked (box : BoundingBox K) (point : Vec3 K) :
    box.checked.extend point.checked = (box.extend point).checked :=
  rfl

theorem ofList?_checked (points : List (Vec3 K)) :
    ofList? (points.map Vec3.checked) = (ofList? points).map checked := by
  cases points with
  | nil =>
      rfl
  | cons first rest =>
      have hfold : forall box : BoundingBox K,
          (rest.map Vec3.checked).foldl extend box.checked = (rest.foldl extend box).checked := by
        induction rest with
        | nil =>
            intro box
            rfl
        | cons point rest ih =>
            intro box
            rw [List.map_cons, List.foldl_cons, extend_checked, ih, List.foldl_cons]
      exact congrArg some (hfold (ofPoint first))

theorem center_checked (box : BoundingBox K) : box.checked.center = box.center.checked := by
  have htwo : (Scalar.toOfScientific.ofScientific 20 true 1 : K) ≠ 0 := by
    rw [ExactScalar.literal]
    norm_num
  exact Vec3.div_checked (box.min + box.max) htwo

/-- The factors divide by the extents on the first two axes, and on the third one only if the
box has an extent there. -/
theorem unitScale_checked {box : BoundingBox K} (hx : box.extent.x ≠ 0)
    (hy : box.extent.y ≠ 0) : box.checked.unitScale = box.unitScale.checked := by
  have hfirst : (1.0 : Checked K) / number box.extent.x = number (1.0 / box.extent.x) :=
    Checked.number_div _ hx
  have hsecond : (1.0 : Checked K) / number box.extent.y = number (1.0 / box.extent.y) :=
    Checked.number_div _ hy
  have hthird : (if (number box.max.z == number box.min.z) = true then 0
        else (1.0 : Checked K) / number box.extent.z) =
      number (if (box.max.z == box.min.z) = true then 0 else 1.0 / box.extent.z) := by
    by_cases hflat : box.max.z = box.min.z
    · have htest : (number box.max.z == number box.min.z) = true := decide_eq_true hflat
      rw [if_pos htest, if_pos (beq_iff_eq.mpr hflat)]
      rfl
    · have htest : ¬(number box.max.z == number box.min.z) = true := fun h =>
        hflat (of_decide_eq_true h)
      rw [if_neg htest, if_neg (mt beq_iff_eq.mp hflat)]
      exact Checked.number_div _ (sub_ne_zero.mpr hflat)
  have hfactors : box.checked.unitScale =
      ⟨1.0 / number box.extent.x, 1.0 / number box.extent.y,
        if number box.max.z == number box.min.z then 0 else 1.0 / number box.extent.z⟩ :=
    rfl
  rw [hfactors, hfirst, hsecond, hthird]
  rfl

theorem rescale_checked {box : BoundingBox K} (hx : box.extent.x ≠ 0) (hy : box.extent.y ≠ 0)
    (point : Vec3 K) : box.checked.rescale point.checked = (box.rescale point).checked := by
  unfold rescale
  rw [center_checked, unitScale_checked hx hy]
  rfl

end BoundingBox

namespace Arena

variable {K : Type} [ExactScalar K]

theorem bounds?_checked (arena : Arena K) :
    arena.checked.bounds? = arena.bounds?.map BoundingBox.checked := by
  unfold bounds?
  rw [positions_checked, BoundingBox.ofList?_checked]

theorem normalizeWithBounds_checked {arena : Arena K} {box : BoundingBox K}
    (hbox : arena.bounds? = some box) (hx : box.extent.x ≠ 0) (hy : box.extent.y ≠ 0) :
    arena.checked.normalizeWithBounds = (arena.normalize.checked, some box.checked) := by
  have hbounds : arena.checked.bounds? = some box.checked := by
    rw [bounds?_checked, hbox]
    rfl
  unfold normalizeWithBounds normalize
  rw [hbounds, hbox]
  apply Prod.ext
  · apply map_checked
    intro node
    change ({ node.checked with position := box.checked.rescale node.position.checked } :
      Node (Checked K)) = _
    rw [BoundingBox.rescale_checked hx hy]
    rfl
  · rfl

end Arena
end GraphLayout
