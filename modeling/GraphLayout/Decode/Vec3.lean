import GraphLayout.Json.Record
import GraphLayout.Vec3

/-!
# Reading vectors

All three components are required.
-/

namespace GraphLayout
namespace Vec3

open Json (Record)

structure Draft where
  x : Option Float
  y : Option Float
  z : Option Float

namespace Draft

def complete (draft : Draft) : Except String (Vec3 Float) :=
  match draft.x, draft.y, draft.z with
  | none, _, _ => .error "x"
  | _, none, _ => .error "y"
  | _, _, none => .error "z"
  | some x, some y, some z => .ok ⟨x, y, z⟩

end Draft

def record : Record Draft (Vec3 Float) where
  name := "Vec3"
  fields :=
    [.ofPart "x" Json.float Draft.x fun draft value => { draft with x := some value },
      .ofPart "y" Json.float Draft.y fun draft value => { draft with y := some value },
      .ofPart "z" Json.float Draft.z fun draft value => { draft with z := some value }]
  blank := ⟨none, none, none⟩
  complete := Draft.complete

def ofJson (text : String) : Except Json.Error (Vec3 Float) :=
  Json.readAll record.reader text

end Vec3
end GraphLayout
