import GraphLayout.Decimal.Shortest

/-!
# Styles of decimal text

A number with few digits is written positionally while the place of its leading
digit is within bounds, and with an exponent otherwise. A positional number
always has a digit after its point.
-/

namespace GraphLayout
namespace Decimal

structure Style where
  lowest : Int
  highest : Int

namespace Scientific

/-- Moves the zeros at the end of the digits into the exponent. The count bounds
how many are moved. -/
def dropZeros : Nat -> Scientific -> Scientific
  | 0, decimal => decimal
  | count + 1, decimal =>
      if decimal.digits % 10 = 0 then
        dropZeros count ⟨decimal.digits / 10, decimal.exponent + 1⟩
      else decimal

def zeros (count : Nat) : String :=
  String.ofList (List.replicate count '0')

def pointed (digits : List Char) : String :=
  match digits with
  | [] => ""
  | [digit] => digit.toString
  | first :: rest => first.toString ++ "." ++ String.ofList rest

def exponentText (exponent : Int) : String :=
  "e" ++ (if exponent < 0 then "-" else "+") ++ exponent.natAbs.repr

def text (style : Style) (decimal : Scientific) : String :=
  let digits := decimal.digits.repr.toList
  let leading : Int := (digits.length : Int) - 1 + decimal.exponent
  if leading < style.lowest ∨ style.highest < leading then
    pointed digits ++ exponentText leading
  else if leading < 0 then
    "0." ++ zeros (-leading - 1).toNat ++ String.ofList digits
  else
    let whole := leading.toNat + 1
    let fraction := digits.drop whole
    String.ofList (digits.take whole) ++ zeros (whole - digits.length) ++ "." ++
      (if fraction.isEmpty then "0" else String.ofList fraction)

end Scientific

def Style.write (style : Style) (x : Float) : String :=
  match Parts.ofFloat x with
  | .notANumber => "NaN"
  | .infinite negative => sign negative ++ "inf"
  | .finite negative magnitude =>
      if magnitude.mantissa = 0 then sign negative ++ "0.0"
      else sign negative ++ (magnitude.shortest.dropZeros 17).text style

end Decimal
end GraphLayout
