import GraphLayout.Encode
import GraphLayout.Json.Typed

/-!
# Reading dimensions

The dimensions are given by their name, or by an object with their name as its only
key and null as its value.
-/

namespace GraphLayout
namespace Dimensions

open Json (Reader failBefore failBehind)

def all : List Dimensions :=
  [two, three]

def ofName? (name : String) : Option Dimensions :=
  all.find? fun dimensions => dimensions.name == name

def nameTail : Reader Dimensions := fun text => do
  let (name, rest) ← Json.stringTail text
  match ofName? name with
  | some dimensions => .ok (dimensions, rest)
  | none => failBefore (.unknownVariant name (all.map Dimensions.name)) rest

def closeObject (text : List Char) : Except Json.Failure (List Char) :=
  match Json.skipBlanks text with
  | [] => failBefore .endOfObject []
  | c :: rest =>
      if c = '\x7d' then .ok rest
      else failBefore .expectedValue (c :: rest)

def memberReader : Reader Dimensions := fun text => do
  match ← Json.nextMember true text with
  | .closed rest => failBefore .expectedValue rest
  | .entry rest =>
      let (dimensions, rest) ← nameTail rest
      let rest ← Json.colon rest
      let (_, rest) ← Json.unit rest
      let rest ← closeObject rest
      .ok (dimensions, rest)

def reader : Reader Dimensions := fun text =>
  match Json.skipBlanks text with
  | [] => failBefore .endOfValue []
  | c :: rest =>
      if c = '"' then nameTail rest
      else if c = '\x7b' then memberReader rest
      else failBehind .expectedValue (c :: rest)

def ofJson (text : String) : Except Json.Error Dimensions :=
  Json.readAll reader text

end Dimensions
end GraphLayout
