import GraphLayout.Json.Numeral
import GraphLayout.Json.StringLiteral

/-!
# Reading values

Lists and objects may be nested, up to a limit.
-/

namespace GraphLayout
namespace Json

/-- Reads a value, given the reader of the values within it. Without one, the value
may be neither a list nor an object. -/
def valueAround (inner : Option (Reader Value)) : Reader Value := fun text =>
  match skipBlanks text with
  | [] => failBefore .endOfValue []
  | c :: rest =>
      if c = 'n' then word .null ['u', 'l', 'l'] rest
      else if c = 't' then word (.bool true) ['r', 'u', 'e'] rest
      else if c = 'f' then word (.bool false) ['a', 'l', 's', 'e'] rest
      else if c = '"' then do
        let (value, rest) ← stringTail rest
        .ok (.string value, rest)
      else if startsNumber c then do
        let (value, rest) ← number (c :: rest)
        .ok (.number value, rest)
      else if c = '[' then
        match inner with
        | some item => do
            let (values, rest) ← items item rest
            .ok (.array values, rest)
        | none => failBehind .nestingLimit (c :: rest)
      else if c = '\x7b' then
        match inner with
        | some content => do
            let (entries, rest) ← members stringTail content rest
            .ok (.object entries, rest)
        | none => failBehind .nestingLimit (c :: rest)
      else failBehind .expectedValue (c :: rest)

def valueWithin : Nat -> Reader Value
  | 0 => valueAround none
  | depth + 1 => valueAround (some (valueWithin depth))

def nestingLimit : Nat :=
  127

def value : Reader Value :=
  valueWithin nestingLimit

end Json
end GraphLayout
