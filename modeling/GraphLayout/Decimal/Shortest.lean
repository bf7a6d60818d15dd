import GraphLayout.Decimal.Binary

/-!
# Shortest decimals

Among the decimals that read back as a given binary64 number, one with the
fewest digits is chosen, and of those the one nearest to the number.

The reals that round to a number form an interval around it, which reaches
halfway to either neighbour and holds its ends if the mantissa is even. The
search tries one digit, then two and so on: if a decimal of some length lies in
the interval, then one of the two that enclose the number does.
-/

namespace GraphLayout
namespace Decimal

/-- The number `digits * 10 ^ exponent`. -/
structure Scientific where
  digits : Nat
  exponent : Int
  deriving DecidableEq, Repr

/-!
# The interval of a number
-/

def Scientific.compareWith (decimal : Scientific) (quarters : Nat) (exponent : Int) : Ordering :=
  let (a, b) := scaled decimal.digits 0 decimal.exponent
  let (c, d) := scaled quarters exponent 0
  compare (a * d) (c * b)

namespace Magnitude

/-- The lower end of the interval, in quarters of a unit of the mantissa. Below
a power of two the neighbours are half as far apart. -/
def lowerEnd (x : Magnitude) : Nat :=
  if x.mantissa = Nat.pow 2 52 ∧ -1074 < x.exponent then 4 * x.mantissa - 1
  else 4 * x.mantissa - 2

def upperEnd (x : Magnitude) : Nat :=
  4 * x.mantissa + 2

def readsBack (x : Magnitude) (decimal : Scientific) : Bool :=
  let lower := decimal.compareWith x.lowerEnd (x.exponent - 2)
  let upper := decimal.compareWith x.upperEnd (x.exponent - 2)
  let closed := x.mantissa % 2 == 0
  (lower == .gt || (closed && lower == .eq)) && (upper == .lt || (closed && upper == .eq))

/-!
# The search
-/

/-- The two decimals with a given exponent that enclose the number, with the
nearer one in front; of two equally near ones, the even one. -/
def enclosing (x : Magnitude) (exponent : Int) : List Scientific :=
  let (numerator, denominator) := scaled x.mantissa x.exponent (-exponent)
  let below := numerator / denominator
  let rest := 2 * (numerator % denominator)
  let lower : Scientific := ⟨below, exponent⟩
  let upper : Scientific := ⟨below + 1, exponent⟩
  if rest < denominator then [lower, upper]
  else if denominator < rest then [upper, lower]
  else if below % 2 = 0 then [lower, upper]
  else [upper, lower]

def search (x : Magnitude) (exponents : List Int) : Option Scientific :=
  exponents.findSome? fun exponent => (x.enclosing exponent).find? x.readsBack

def scale (x : Magnitude) : Int :=
  let (numerator, denominator) := scaled x.mantissa x.exponent 0
  if denominator ≤ numerator then
    ((numerator / denominator).repr.length : Int)
  else
    1 - (((denominator - 1) / numerator).repr.length : Int)

def exactDecimal (x : Magnitude) : Scientific :=
  if 0 ≤ x.exponent then ⟨x.mantissa * Nat.pow 2 x.exponent.toNat, 0⟩
  else ⟨x.mantissa * Nat.pow 5 (-x.exponent).toNat, x.exponent⟩

/-- A decimal with the fewest digits that reads back, for a number that is not
zero. Seventeen digits always suffice. -/
def shortest (x : Magnitude) : Scientific :=
  let scale := x.scale
  let exponents := (List.range 17).map fun (count : Nat) => scale - 1 - (count : Int)
  (x.search exponents).getD x.exactDecimal

end Magnitude
end Decimal
end GraphLayout
