import GraphLayout.Json.Skip
import GraphLayout.Json.Typed

/-!
# Records

A record has named fields in a fixed order. Its text is an object, whose further
members are skipped, or a list of the fields in their order, of which the last ones may
be missing.
-/

namespace GraphLayout
namespace Json

structure Field (δ : Type) where
  name : String
  isSet : δ -> Bool
  read : δ -> Reader δ

def Field.ofPart {δ β : Type} (name : String) (reader : Reader β) (get : δ -> Option β)
    (set : δ -> β -> δ) : Field δ where
  name := name
  isSet draft := (get draft).isSome
  read draft text := do
    let (value, rest) ← reader text
    .ok (set draft value, rest)

structure Record (δ β : Type) where
  name : String
  fields : List (Field δ)
  blank : δ
  /-- Makes a record from a draft, or names the first field that it lacks. -/
  complete : δ -> Except String β

namespace Record

variable {δ β : Type}

def field? (record : Record δ β) (name : String) : Option (Field δ) :=
  record.fields.find? fun field => field.name == name

/-- Reads one member, from behind its opening quotation mark, into a draft. A field
that is set is refused where its object could be closed. -/
def member (record : Record δ β) (draft : δ) : Reader δ := fun text => do
  let (name, rest) ← stringTail text
  match record.field? name with
  | some field =>
      if field.isSet draft then
        failBefore (.duplicateField name)
          (match skipBlanks rest with
          | '\x7d' :: rest => rest
          | rest => rest)
      else
        let rest ← colon rest
        field.read draft rest
  | none =>
      let rest ← colon rest
      let rest ← skipValue rest
      .ok (draft, rest)

/-- Reads the members of an object into a draft. The text is a budget of the turns. -/
def draftFrom (record : Record δ β) : List Char -> Bool -> δ -> Reader δ
  | [], _, _, text => failBefore .endOfObject text
  | _ :: budget, first, draft, text => do
      match ← nextMember first text with
      | .closed rest => .ok (draft, rest)
      | .entry rest =>
          let (draft, rest) ← record.member draft rest
          draftFrom record budget false draft rest

def ofMembers (record : Record δ β) : Reader β := fun text => do
  let (draft, rest) ← record.draftFrom text true record.blank text
  match record.complete draft with
  | .ok value => .ok (value, rest)
  | .error name => failBefore (.missingField name) rest

def closeList (text : List Char) : Except Failure (List Char) :=
  match skipBlanks text with
  | [] => failBefore .endOfList []
  | c :: rest =>
      if c = ']' then .ok rest
      else if c = ',' then
        match skipBlanks rest with
        | ']' :: rest => failBehind .trailingComma (']' :: rest)
        | rest => failBehind .trailingCharacters rest
      else failBehind .trailingCharacters (c :: rest)

def itemsInto : List (Field δ) -> Bool -> Nat -> δ -> Reader (δ × Nat)
  | [], _, count, draft, text => do
      let rest ← closeList text
      .ok ((draft, count), rest)
  | field :: fields, first, count, draft, text => do
      match ← nextItem first text with
      | .closed rest => .ok ((draft, count), rest)
      | .entry rest =>
          let (draft, rest) ← field.read draft rest
          itemsInto fields false (count + 1) draft rest

def ofItems (record : Record δ β) : Reader β := fun text => do
  let ((draft, count), rest) ← itemsInto record.fields true 0 record.blank text
  match record.complete draft with
  | .ok value => .ok (value, rest)
  | .error _ => failBefore (.tooFewItems count record.name record.fields.length) rest

def reader (record : Record δ β) : Reader β := fun text =>
  match skipBlanks text with
  | '\x7b' :: rest => record.ofMembers rest
  | '[' :: rest => record.ofItems rest
  | text => refuseValue (.record record.name) text

end Record
end Json
end GraphLayout
