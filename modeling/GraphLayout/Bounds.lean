import GraphLayout.Arena

/-!
# Bounds

The box around the present nodes, and the rescaling that centres a layout on the
origin and gives it unit extent. Only the third axis is guarded against an extent
of zero, as a flat layout has none there; without extent on another axis the
coordinates on it are no numbers.
-/

namespace GraphLayout

structure BoundingBox (α : Type) where
  min : Vec3 α
  max : Vec3 α
  deriving Repr

namespace BoundingBox

variable {α : Type} [Scalar α]

omit [Scalar α] in
def ofPoint (point : Vec3 α) : BoundingBox α :=
  ⟨point, point⟩

def extend (box : BoundingBox α) (point : Vec3 α) : BoundingBox α :=
  ⟨box.min.min point, box.max.max point⟩

def ofList? : List (Vec3 α) -> Option (BoundingBox α)
  | [] => none
  | first :: rest => some (rest.foldl extend (ofPoint first))

def center (box : BoundingBox α) : Vec3 α :=
  (box.min + box.max) / (2.0 : α)

def extent (box : BoundingBox α) : Vec3 α :=
  box.max - box.min

/-- The factors that give the box unit extent. A box without extent on the third
axis is flattened there. -/
def unitScale (box : BoundingBox α) : Vec3 α :=
  let extent := box.extent
  ⟨1.0 / extent.x, 1.0 / extent.y, if box.max.z == box.min.z then 0 else 1.0 / extent.z⟩

def rescale (box : BoundingBox α) (point : Vec3 α) : Vec3 α :=
  (point - box.center).scaleBy box.unitScale

omit [Scalar α] in
def toList (box : BoundingBox α) : List α :=
  box.min.toList ++ box.max.toList

end BoundingBox

namespace Arena

variable {α : Type} [Scalar α]

omit [Scalar α] in
def positions (arena : Arena α) : List (Vec3 α) :=
  arena.nodes.map Node.position

def bounds? (arena : Arena α) : Option (BoundingBox α) :=
  BoundingBox.ofList? arena.positions

def normalize (arena : Arena α) : Arena α :=
  match arena.bounds? with
  | some box => arena.map fun node => { node with position := box.rescale node.position }
  | none => arena

def normalizeWithBounds (arena : Arena α) : Arena α × Option (BoundingBox α) :=
  match arena.bounds? with
  | some box =>
      (arena.map fun node => { node with position := box.rescale node.position }, some box)
  | none => (arena, none)

theorem normalizeWithBounds_eq (arena : Arena α) :
    arena.normalizeWithBounds = (arena.normalize, arena.bounds?) := by
  unfold normalizeWithBounds normalize
  cases arena.bounds? with
  | none => rfl
  | some box => rfl

end Arena
end GraphLayout
