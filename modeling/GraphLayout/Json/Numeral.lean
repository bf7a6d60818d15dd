import GraphLayout.Json.Reader
import GraphLayout.Json.Value

/-!
# Numerals

The text of a JSON number: a sign, digits, and possibly a fraction and an exponent.

A number that is not whole is found in two steps, each of which rounds. As many digits
as fit into 64 bits make its significand; a further digit in front of the point only
moves the point, and one behind it is dropped. The significand is then multiplied or
divided by a power of ten.
-/

namespace GraphLayout
namespace Json

structure Numeral where
  negative : Bool
  whole : List Char
  fraction : List Char
  exponent : Option Int

def digitValue (c : Char) : Nat :=
  c.toNat - '0'.toNat

def digitsValue (digits : List Char) : Nat :=
  digits.foldl (fun value digit => 10 * value + digitValue digit) 0

/-!
# Significands
-/

def significandBound : Nat :=
  UInt64.size

/-- Appends digits to a significand as long as they fit, and counts those that do not. -/
def appendWhole : Nat -> List Char -> Nat × Nat
  | significand, [] => (significand, 0)
  | significand, digit :: rest =>
      let next := 10 * significand + digitValue digit
      if next < significandBound then appendWhole next rest
      else (significand, rest.length + 1)

/-- Appends digits to a significand as long as they fit, and counts those that do. -/
def appendFraction : Nat -> List Char -> Nat × Nat
  | significand, [] => (significand, 0)
  | significand, digit :: rest =>
      let next := 10 * significand + digitValue digit
      if next < significandBound then
        let (significand, used) := appendFraction next rest
        (significand, used + 1)
      else (significand, 0)

def powerOfTen (exponent : Nat) : Float :=
  .ofScientific 1 false exponent

def greatestPower : Nat :=
  308

def raise (x : Float) (exponent : Nat) : Option Float :=
  if exponent ≤ greatestPower then
    let product := x * powerOfTen exponent
    if product.isInf then none else some product
  else if x == 0 then some x
  else none

/-- Divides by a power of ten, by the greatest one first where it is beyond that. What
is divided by the greatest power twice becomes zero. -/
def lower (x : Float) (exponent : Nat) : Float :=
  if exponent ≤ greatestPower then x / powerOfTen exponent
  else
    let quotient := x / powerOfTen greatestPower
    if exponent ≤ 2 * greatestPower then quotient / powerOfTen (exponent - greatestPower)
    else quotient / powerOfTen greatestPower

namespace Numeral

def scientific (numeral : Numeral) : Nat × Int :=
  let (significand, moved) := appendWhole 0 numeral.whole
  let (significand, used) := appendFraction significand numeral.fraction
  (significand, numeral.exponent.getD 0 + moved - used)

def magnitude? (numeral : Numeral) : Option Float :=
  match numeral.scientific with
  | (significand, .ofNat exponent) => raise (.ofNat significand) exponent
  | (significand, .negSucc exponent) => some (lower (.ofNat significand) (exponent + 1))

/-- The whole number that a numeral stands for. Zero with a sign is no whole number,
and neither is a value that needs more than 64 bits. -/
def whole? (numeral : Numeral) : Option Int :=
  if numeral.fraction.isEmpty && numeral.exponent.isNone then
    let value := digitsValue numeral.whole
    if numeral.negative then
      if 0 < value ∧ value ≤ Nat.pow 2 63 then some (-(value : Int)) else none
    else
      if value < UInt64.size then some value else none
  else none

def value? (numeral : Numeral) : Option Number :=
  match numeral.whole? with
  | some value => some (.whole value)
  | none =>
      numeral.magnitude?.map fun magnitude =>
        .real (if numeral.negative then -magnitude else magnitude)

end Numeral

/-!
# Parts of a numeral
-/

def wholeDigits : Reader (List Char)
  | [] => failBefore .endOfValue []
  | c :: rest =>
      if c = '0' then
        match rest with
        | [] => .ok ([c], [])
        | d :: more =>
            if d.isDigit then failBehind .invalidNumber (d :: more)
            else .ok ([c], d :: more)
      else if c.isDigit then
        .ok (c :: rest.takeWhile Char.isDigit, rest.dropWhile Char.isDigit)
      else failBehind .invalidNumber (c :: rest)

def fractionDigits : Reader (List Char)
  | [] => .ok ([], [])
  | c :: rest =>
      if c = '.' then
        match rest with
        | [] => failBefore .endOfValue []
        | d :: more =>
            if d.isDigit then
              .ok (rest.takeWhile Char.isDigit, rest.dropWhile Char.isDigit)
            else failBehind .invalidNumber (d :: more)
      else .ok ([], c :: rest)

def greatestExponent : Nat :=
  Nat.pow 2 31 - 1

/-- Reads the further digits of an exponent. Where it is limited, the digit with which
it exceeds the greatest one is refused. -/
def exponentDigits (limited : Bool) : Nat -> Reader Nat
  | value, [] => .ok (value, [])
  | value, c :: rest =>
      if c.isDigit then
        let next := 10 * value + digitValue c
        if limited && greatestExponent < next then failBehind .numberOutOfRange (c :: rest)
        else exponentDigits limited next rest
      else .ok (value, c :: rest)

def exponentSign : List Char -> Bool × List Char
  | [] => (false, [])
  | c :: rest =>
      if c = '-' then (true, rest)
      else if c = '+' then (false, rest)
      else (false, c :: rest)

/-- Reads an exponent, if there is one. Its size is limited where it would make a
number greater that is not zero. -/
def exponentPart (zero : Bool) : Reader (Option Int)
  | [] => .ok (none, [])
  | c :: rest =>
      if c = 'e' || c = 'E' then
        let (negative, rest) := exponentSign rest
        match rest with
        | [] => failBefore .endOfValue []
        | d :: more =>
            if d.isDigit then do
              let (value, rest) ← exponentDigits (!negative && !zero) 0 (d :: more)
              .ok (some (if negative then -(value : Int) else value), rest)
            else failBehind .invalidNumber (d :: more)
      else .ok (none, c :: rest)

/-!
# Numbers
-/

def unsignedNumeral (negative : Bool) : Reader Numeral := fun text => do
  let (whole, rest) ← wholeDigits text
  let (fraction, rest) ← fractionDigits rest
  let zero := digitsValue (whole ++ fraction) == 0
  let (exponent, rest) ← exponentPart zero rest
  .ok (⟨negative, whole, fraction, exponent⟩, rest)

def numeral : Reader Numeral
  | [] => unsignedNumeral false []
  | c :: rest => if c = '-' then unsignedNumeral true rest else unsignedNumeral false (c :: rest)

def number : Reader Number := fun text => do
  let (numeral, rest) ← numeral text
  match numeral.value? with
  | some value => .ok (value, rest)
  | none => failBefore .numberOutOfRange rest

def startsNumber (c : Char) : Bool :=
  c = '-' || c.isDigit

end Json
end GraphLayout
