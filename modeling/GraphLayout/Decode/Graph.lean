import GraphLayout.Graph
import GraphLayout.Json.Read
import GraphLayout.Json.Typed

/-!
# Reading graphs

The text of a graph is read as a JSON value first. The value is an object whose member
`elements` lists the elements, or the list itself. What follows the value is looked at
only if the value has one of these shapes.
-/

namespace GraphLayout

open Json (Value)

/-- The value of a member that may be missing, but not occur twice. -/
def Json.Value.atMostOne? (name : String) (members : List (String × Value)) :
    Option (Option Value) :=
  match Value.membersNamed name members with
  | [] => some none
  | [value] => some (some value)
  | _ => none

namespace Element

def idOfValue? : Value -> Option Int64
  | .number number => number.toInt64.toOption
  | _ => none

def endOfValue? : Value -> Option (Option Int64)
  | .null => some none
  | value => (idOfValue? value).map some

def textOfMember? : String × Value -> Option (String × String)
  | (name, .string text) => some (name, text)
  | _ => none

def attributesOfValue? : Value -> Option Attributes
  | .object members => (members.mapM textOfMember?).map Attributes.ofList
  | _ => none

def ofFields? (id : Value) (values source target : Option Value) : Option Element := do
  let id ← idOfValue? id
  let values ← (values.map attributesOfValue?).getD (some .empty)
  let source ← (source.map endOfValue?).getD (some none)
  let target ← (target.map endOfValue?).getD (some none)
  some ⟨id, values, source, target⟩

def ofMembers? (members : List (String × Value)) : Option Element := do
  let id ← Value.atMostOne? "id" members
  let values ← Value.atMostOne? "values" members
  let source ← Value.atMostOne? "from" members
  let target ← Value.atMostOne? "to" members
  ofFields? (← id) values source target

def ofValue? : Value -> Option Element
  | .object members => ofMembers? members
  | .array [id] => ofFields? id none none none
  | .array [id, values] => ofFields? id (some values) none none
  | .array [id, values, source] => ofFields? id (some values) (some source) none
  | .array [id, values, source, target] => ofFields? id (some values) (some source) (some target)
  | _ => none

end Element

namespace Graph

def ofItems? (items : List Value) : Option Graph :=
  (items.mapM Element.ofValue?).map Graph.mk

def ofValue? : Value -> Option Graph
  | .object members =>
      match Value.membersNamed "elements" members with
      | [.array items] => ofItems? items
      | _ => none
  | .array items => ofItems? items
  | _ => none

structure DecodeError where
  reason : Json.Error

def DecodeError.message (error : DecodeError) : String :=
  "failed to decode graph JSON: " ++ error.reason.message

def ofJson (text : String) : Except DecodeError Graph :=
  let chars := text.toList
  match Json.value chars with
  | .error failure => .error ⟨failure.locate chars⟩
  | .ok (value, rest) =>
      match ofValue? value with
      | none => .error ⟨.noShape⟩
      | some graph =>
          match Json.finish rest with
          | .ok () => .ok graph
          | .error failure => .error ⟨failure.locate chars⟩

end Graph
end GraphLayout
