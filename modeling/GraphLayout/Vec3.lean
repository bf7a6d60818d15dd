import GraphLayout.Scalar

/-!
# Vectors

Points and directions in layout space. A flat layout keeps the third component
at zero.
-/

namespace GraphLayout

structure Vec3 (α : Type) where
  x : α
  y : α
  z : α
  deriving Repr

namespace Vec3

variable {α : Type} [Scalar α]

def zero : Vec3 α :=
  ⟨0, 0, 0⟩

instance : Add (Vec3 α) where
  add a b := ⟨a.x + b.x, a.y + b.y, a.z + b.z⟩

instance : Sub (Vec3 α) where
  sub a b := ⟨a.x - b.x, a.y - b.y, a.z - b.z⟩

instance : Neg (Vec3 α) where
  neg a := ⟨-a.x, -a.y, -a.z⟩

instance : HMul (Vec3 α) α (Vec3 α) where
  hMul a s := ⟨a.x * s, a.y * s, a.z * s⟩

instance : HDiv (Vec3 α) α (Vec3 α) where
  hDiv a s := ⟨a.x / s, a.y / s, a.z / s⟩

/-- Vectors compare component by component, by the test of their scalars. -/
instance : BEq (Vec3 α) where
  beq a b := a.x == b.x && a.y == b.y && a.z == b.z

def scaleBy (a factors : Vec3 α) : Vec3 α :=
  ⟨a.x * factors.x, a.y * factors.y, a.z * factors.z⟩

def lengthSquared (a : Vec3 α) : α :=
  a.x * a.x + a.y * a.y + a.z * a.z

def length (a : Vec3 α) : α :=
  Scalar.sqrt a.lengthSquared

def flattened (a : Vec3 α) : Vec3 α :=
  ⟨a.x, a.y, 0⟩

def min (a b : Vec3 α) : Vec3 α :=
  ⟨Scalar.min a.x b.x, Scalar.min a.y b.y, Scalar.min a.z b.z⟩

def max (a b : Vec3 α) : Vec3 α :=
  ⟨Scalar.max a.x b.x, Scalar.max a.y b.y, Scalar.max a.z b.z⟩

omit [Scalar α] in
def toList (a : Vec3 α) : List α :=
  [a.x, a.y, a.z]

end Vec3
end GraphLayout
