import GraphLayout.Config
import GraphLayout.Json.Record

/-!
# Reading parameters

A parameter that is not given keeps its default.
-/

namespace GraphLayout

open Json (Record)

namespace Config

structure Draft where
  attraction : Option Float
  repulsion : Option Float
  springLength : Option Float
  gravity : Option Float
  damper : Option Float
  maxIterations : Option UInt32
  movementThreshold : Option Float

namespace Draft

def blank : Draft :=
  ⟨none, none, none, none, none, none, none⟩

def complete (draft : Draft) : Config Float :=
  let initial : Config Float := Config.default
  { attraction := draft.attraction.getD initial.attraction
    repulsion := draft.repulsion.getD initial.repulsion
    springLength := draft.springLength.getD initial.springLength
    gravity := draft.gravity.getD initial.gravity
    damper := draft.damper.getD initial.damper
    maxIterations := draft.maxIterations.getD initial.maxIterations
    movementThreshold := draft.movementThreshold.getD initial.movementThreshold }

end Draft

def record : Record Draft (Config Float) where
  name := "LayoutConfig"
  fields :=
    [.ofPart "attraction" Json.float Draft.attraction
        fun draft value => { draft with attraction := some value },
      .ofPart "repulsion" Json.float Draft.repulsion
        fun draft value => { draft with repulsion := some value },
      .ofPart "springLength" Json.float Draft.springLength
        fun draft value => { draft with springLength := some value },
      .ofPart "gravity" Json.float Draft.gravity
        fun draft value => { draft with gravity := some value },
      .ofPart "damper" Json.float Draft.damper
        fun draft value => { draft with damper := some value },
      .ofPart "maxIterations" Json.uint32 Draft.maxIterations
        fun draft value => { draft with maxIterations := some value },
      .ofPart "movementThreshold" Json.float Draft.movementThreshold
        fun draft value => { draft with movementThreshold := some value }]
  blank := Draft.blank
  complete draft := .ok draft.complete

def ofJson (text : String) : Except Json.Error (Config Float) :=
  Json.readAll record.reader text

end Config
end GraphLayout
