import GraphLayout.Decimal.Binary

/-!
# Numbers with a fixed count of places

A number is rounded from its exact value to the nearest multiple of a power of
ten; a number halfway between two multiples goes to the even one.
-/

namespace GraphLayout
namespace Decimal

/-!
# Rounding a quotient
-/

/-- The natural number nearest to a fraction. A half goes to the even
neighbour. -/
def roundQuotient (numerator denominator : Nat) : Nat :=
  let quotient := numerator / denominator
  let rest := 2 * (numerator % denominator)
  if rest < denominator then quotient
  else if denominator < rest then quotient + 1
  else if quotient % 2 = 0 then quotient
  else quotient + 1

/-!
# Text
-/

def placeText (units places : Nat) : String :=
  let fraction := (units % Nat.pow 10 places).repr
  let zeros := String.ofList (List.replicate (places - fraction.length) '0')
  (units / Nat.pow 10 places).repr ++ "." ++ zeros ++ fraction

def fixedText (places : Nat) (x : Float) : String :=
  match Parts.ofFloat x with
  | .notANumber => "NaN"
  | .infinite negative => sign negative ++ "inf"
  | .finite negative magnitude =>
      let (numerator, denominator) := scaled magnitude.mantissa magnitude.exponent places
      sign negative ++ placeText (roundQuotient numerator denominator) places

end Decimal
end GraphLayout
