import GraphLayout.Decimal.Binary

/-!
# JSON values

An object is a list of members in the order of its text, in which a name may occur
more than once. A number is whole only if its text has neither fraction nor
exponent and its value fits into 64 bits.
-/

namespace GraphLayout
namespace Json

inductive Number where
  | whole (value : Int)
  | real (value : Float)

inductive Value where
  | null
  | bool (value : Bool)
  | number (value : Number)
  | string (value : String)
  | array (items : List Value)
  | object (members : List (String × Value))

namespace Value

def ofInt (value : Int) : Value :=
  number (.whole value)

/-- JSON has no text for infinities and for what is no number; they become null. -/
def ofFloat (value : Float) : Value :=
  match Decimal.Parts.ofFloat value with
  | .finite _ _ => number (.real value)
  | _ => null

def membersNamed (name : String) (members : List (String × Value)) : List Value :=
  members.filterMap fun member => if member.fst = name then some member.snd else none

end Value
end Json
end GraphLayout
