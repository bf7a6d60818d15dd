import GraphLayout.Graph
import GraphLayout.Json.Record

/-!
# Reading elements

Only the id is required. An end that is null is absent.
-/

namespace GraphLayout
namespace Element

open Json (Record Reader)

structure Draft where
  id : Option Int64
  values : Option Attributes
  source : Option (Option Int64)
  target : Option (Option Int64)

namespace Draft

def complete (draft : Draft) : Except String Element :=
  match draft.id with
  | some id =>
      .ok ⟨id, draft.values.getD .empty, draft.source.getD none, draft.target.getD none⟩
  | none => .error "id"

end Draft

def attributesReader : Reader Attributes := fun text => do
  let (pairs, rest) ← Json.mapOf Json.string text
  .ok (.ofList pairs, rest)

def record : Record Draft Element where
  name := "GraphElement"
  fields :=
    [.ofPart "id" Json.int64 Draft.id fun draft value => { draft with id := some value },
      .ofPart "values" attributesReader Draft.values
        fun draft value => { draft with values := some value },
      .ofPart "from" (Json.optional Json.int64) Draft.source
        fun draft value => { draft with source := some value },
      .ofPart "to" (Json.optional Json.int64) Draft.target
        fun draft value => { draft with target := some value }]
  blank := ⟨none, none, none, none⟩
  complete := Draft.complete

def ofJson (text : String) : Except Json.Error Element :=
  Json.readAll record.reader text

end Element
end GraphLayout
