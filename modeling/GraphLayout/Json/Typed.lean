import GraphLayout.Json.Numeral
import GraphLayout.Json.StringLiteral

/-!
# Typed values

Readers that want a value of one kind. A value of another kind is read as far as is
needed to tell what it is, so that a fault in its text is reported first.
-/

namespace GraphLayout
namespace Json

variable {β : Type}

def Number.found : Number -> Found
  | whole value => .whole value
  | real value => .real value

def refuse {γ : Type} (cause : γ -> Cause) (reading : Except Failure (γ × List Char)) :
    Except Failure (β × List Char) := do
  let (value, rest) ← reading
  failBefore (cause value) rest

/-- Refuses the value in front of a text, which is not of the kind that is wanted. -/
def refuseValue (wanted : Wanted) : Reader β
  | [] => failBefore .endOfValue []
  | c :: rest =>
      let wrong (found : Found) : Cause := .invalidType found wanted
      if c = 'n' then refuse wrong (word .null ['u', 'l', 'l'] rest)
      else if c = 't' then refuse wrong (word (.bool true) ['r', 'u', 'e'] rest)
      else if c = 'f' then refuse wrong (word (.bool false) ['a', 'l', 's', 'e'] rest)
      else if startsNumber c then
        refuse (fun number : Number => wrong number.found) (number (c :: rest))
      else if c = '"' then refuse (fun text => wrong (.string text)) (stringTail rest)
      else if c = '[' then failBefore (wrong .sequence) (c :: rest)
      else if c = '\x7b' then failBefore (wrong .map) (c :: rest)
      else failBehind .expectedValue (c :: rest)

/-!
# Numbers
-/

def numberAs (wanted : Wanted) (convert : Number -> Except Cause β) : Reader β := fun text =>
  match skipBlanks text with
  | [] => failBefore .endOfValue []
  | c :: rest =>
      if startsNumber c then do
        let (number, rest) ← number (c :: rest)
        match convert number with
        | .ok value => .ok (value, rest)
        | .error cause => failBefore cause rest
      else refuseValue wanted (c :: rest)

namespace Number

def toInt64 : Number -> Except Cause Int64
  | whole value =>
      if Int64.minValue.toInt ≤ value ∧ value ≤ Int64.maxValue.toInt then .ok (.ofInt value)
      else .error (.outOfRange value .int64)
  | real value => .error (.invalidType (.real value) .int64)

def toUInt32 : Number -> Except Cause UInt32
  | whole value =>
      if 0 ≤ value ∧ value < UInt32.size then .ok (.ofNat value.toNat)
      else .error (.outOfRange value .uint32)
  | real value => .error (.invalidType (.real value) .uint32)

def toFloat : Number -> Float
  | whole value => .ofInt value
  | real value => value

end Number

def int64 : Reader Int64 :=
  numberAs .int64 Number.toInt64

def uint32 : Reader UInt32 :=
  numberAs .uint32 Number.toUInt32

def float : Reader Float :=
  numberAs .float fun number => .ok number.toFloat

/-!
# Null, strings and maps
-/

def optional (reader : Reader β) : Reader (Option β) := fun text =>
  match skipBlanks text with
  | 'n' :: rest => word none ['u', 'l', 'l'] rest
  | text => do
      let (value, rest) ← reader text
      .ok (some value, rest)

def unit : Reader Unit := fun text =>
  match skipBlanks text with
  | 'n' :: rest => word () ['u', 'l', 'l'] rest
  | text => refuseValue .unit text

def string : Reader String := fun text =>
  match skipBlanks text with
  | '"' :: rest => stringTail rest
  | text => refuseValue .string text

def mapOf (value : Reader β) : Reader (List (String × β)) := fun text =>
  match skipBlanks text with
  | '\x7b' :: rest => members stringTail value rest
  | text => refuseValue .map text

end Json
end GraphLayout
