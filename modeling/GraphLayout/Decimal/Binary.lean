/-!
# Binary magnitudes

A binary64 number taken apart into its sign and its exact magnitude.
-/

namespace GraphLayout
namespace Decimal

/-- The number `mantissa * 2 ^ exponent`. -/
structure Magnitude where
  mantissa : Nat
  exponent : Int
  deriving DecidableEq, Repr

inductive Parts where
  | notANumber
  | infinite (negative : Bool)
  | finite (negative : Bool) (magnitude : Magnitude)
  deriving DecidableEq, Repr

namespace Parts

def ofBits (bits : UInt64) : Parts :=
  let word := bits.toNat
  let negative := word / Nat.pow 2 63 == 1
  let field : Nat := word / Nat.pow 2 52 % Nat.pow 2 11
  let fraction : Nat := word % Nat.pow 2 52
  if field = 2047 then
    if fraction = 0 then infinite negative else notANumber
  else if field = 0 then
    finite negative ⟨fraction, -1074⟩
  else
    finite negative ⟨Nat.pow 2 52 + fraction, (field : Int) - 1075⟩

def ofFloat (x : Float) : Parts :=
  ofBits x.toBits

end Parts

/-!
# Exact fractions

A scaled natural number is compared and divided as a fraction of two natural
numbers, so that nothing is lost.
-/

/-- The numerator and the denominator of `n * 2 ^ twos * 10 ^ tens`. -/
def scaled (n : Nat) (twos tens : Int) : Nat × Nat :=
  (n * Nat.pow 2 twos.toNat * Nat.pow 10 tens.toNat,
    Nat.pow 2 (-twos).toNat * Nat.pow 10 (-tens).toNat)

def sign (negative : Bool) : String :=
  if negative then "-" else ""

end Decimal
end GraphLayout
