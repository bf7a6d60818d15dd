/-!
# Scalars

A layout is computed over any type that offers the operations of binary64
arithmetic. No law is assumed of them, so that what is said of a layout for
every scalar type holds whatever an operation answers, rounding included.
-/

namespace GraphLayout

/-- The arithmetic a layout needs. Equality and order are tests with a Boolean
answer, since a scalar need not equal itself. -/
class Scalar (α : Type) extends
    Zero α, Add α, Sub α, Mul α, Div α, Neg α, BEq α, OfScientific α where
  sqrt : α -> α
  sin : α -> α
  cos : α -> α
  min : α -> α -> α
  max : α -> α -> α
  ble : α -> α -> Bool

namespace Scalar

variable {α : Type} [Scalar α]

/-- Adds in list order, starting from the negative of zero, which is the
neutral element of binary64 addition. -/
def sum (xs : List α) : α :=
  xs.foldl (· + ·) (-0)

end Scalar

/-!
# Binary64 scalars

The lesser or greater of two numbers passes over an operand that is not a
number.
-/

instance : Scalar Float where
  zero := 0.0
  sqrt := Float.sqrt
  sin := Float.sin
  cos := Float.cos
  min a b := if a.isNaN then b else if b.isNaN then a else if b < a then b else a
  max a b := if a.isNaN then b else if b.isNaN then a else if a < b then b else a
  ble a b := a ≤ b

end GraphLayout
