import GraphLayout.Json.Read

/-!
# The grammar of JSON

Which words spell which values, told without a reader. A word spells a value if it
stands for the value as it is; blanks may surround it in a text. Readers are held to
this grammar in the modules that follow.

A number is whole if its word is an integer literal, that is, digits with at most a
minus sign, of which the value fits into 64 bits and is not a zero with a sign. Every
other numeral stands for a binary64 number.
-/

namespace GraphLayout
namespace Json

def Blanks (word : List Char) : Prop :=
  forall c, c ∈ word -> isBlank c = true

def Digits (word : List Char) : Prop :=
  word ≠ [] ∧ forall c, c ∈ word -> c.isDigit = true

/-!
# Strings
-/

inductive SpellsEscape : List Char -> Char -> Prop where
  | letter {letter c : Char} : letterEscape? letter = some c -> SpellsEscape [letter] c
  | code {a b c d : Char} {code : Nat} : hexValue? a b c d = some code ->
      isTrailing code = false -> isLeading code = false ->
      SpellsEscape ['u', a, b, c, d] (Char.ofNat code)
  | pair {a b c d a' b' c' d' : Char} {leading trailing : Nat} :
      hexValue? a b c d = some leading -> isTrailing leading = false ->
      isLeading leading = true -> hexValue? a' b' c' d' = some trailing ->
      isTrailing trailing = true ->
      SpellsEscape ['u', a, b, c, d, '\\', 'u', a', b', c', d']
        (Char.ofNat (pairValue leading trailing))

inductive SpellsChars : List Char -> List Char -> Prop where
  | nil : SpellsChars [] []
  | plain {c : Char} {word chars : List Char} : c ≠ '"' -> c ≠ '\\' -> isControl c = false ->
      SpellsChars word chars -> SpellsChars (c :: word) (c :: chars)
  | escape {code word chars : List Char} {c : Char} : SpellsEscape code c ->
      SpellsChars word chars -> SpellsChars ('\\' :: (code ++ word)) (c :: chars)

inductive SpellsString : List Char -> String -> Prop where
  | quoted {word chars : List Char} : SpellsChars word chars ->
      SpellsString ('"' :: (word ++ ['"'])) (String.ofList chars)

/-!
# Numbers
-/

/-- Digits in front of a point. Only a zero that stands alone may begin them. -/
def WholeDigits (word : List Char) : Prop :=
  Digits word ∧ (word.head? = some '0' -> word = ['0'])

inductive SpellsFraction : List Char -> List Char -> Prop where
  | none : SpellsFraction [] []
  | some {digits : List Char} : Digits digits -> SpellsFraction ('.' :: digits) digits

inductive SpellsSign : List Char -> Bool -> Prop where
  | none : SpellsSign [] false
  | plus : SpellsSign ['+'] false
  | minus : SpellsSign ['-'] true

inductive SpellsExponent : List Char -> Option Int -> Prop where
  | none : SpellsExponent [] none
  | some {mark : Char} {sign digits : List Char} {negative : Bool} :
      mark = 'e' ∨ mark = 'E' -> SpellsSign sign negative -> Digits digits ->
      SpellsExponent (mark :: (sign ++ digits))
        (some (if negative then -(digitsValue digits : Int) else digitsValue digits))

/-- The words of a numeral from behind its minus sign. -/
inductive SpellsUnsigned : List Char -> List Char -> List Char -> Option Int -> Prop where
  | parts {whole fractionWord fraction exponentWord : List Char} {exponent : Option Int} :
      WholeDigits whole -> SpellsFraction fractionWord fraction ->
      SpellsExponent exponentWord exponent ->
      SpellsUnsigned (whole ++ (fractionWord ++ exponentWord)) whole fraction exponent

inductive SpellsNumeral : List Char -> Numeral -> Prop where
  | positive {word whole fraction : List Char} {exponent : Option Int} :
      SpellsUnsigned word whole fraction exponent ->
      SpellsNumeral word ⟨false, whole, fraction, exponent⟩
  | negative {word whole fraction : List Char} {exponent : Option Int} :
      SpellsUnsigned word whole fraction exponent ->
      SpellsNumeral ('-' :: word) ⟨true, whole, fraction, exponent⟩

/-- The exponent of a numeral is no greater than the greatest one, unless all digits in
front of it are zeros. -/
def Numeral.Bounded (numeral : Numeral) : Prop :=
  forall exponent : Int, numeral.exponent = some exponent ->
    exponent ≤ greatestExponent ∨ digitsValue (numeral.whole ++ numeral.fraction) = 0

inductive SpellsInteger : List Char -> Int -> Prop where
  | natural {digits : List Char} : WholeDigits digits -> digitsValue digits < UInt64.size ->
      SpellsInteger digits (digitsValue digits)
  | negative {digits : List Char} : WholeDigits digits -> 0 < digitsValue digits ->
      digitsValue digits ≤ Nat.pow 2 63 ->
      SpellsInteger ('-' :: digits) (-(digitsValue digits : Int))

inductive SpellsNumber : List Char -> Number -> Prop where
  | whole {word : List Char} {value : Int} : SpellsInteger word value ->
      SpellsNumber word (.whole value)
  | real {word : List Char} {numeral : Numeral} {magnitude : Float} :
      SpellsNumeral word numeral -> numeral.Bounded ->
      (forall value, ¬SpellsInteger word value) -> numeral.magnitude? = some magnitude ->
      SpellsNumber word (.real (if numeral.negative then -magnitude else magnitude))

/-!
# Lists and objects
-/

/-- The words that lead from one entry of a list or an object to the next, or to the
first one. -/
inductive SpellsLead : Bool -> List Char -> Prop where
  | first {blanks : List Char} : Blanks blanks -> SpellsLead true blanks
  | next {blanks blanks' : List Char} : Blanks blanks -> Blanks blanks' ->
      SpellsLead false (blanks ++ (',' :: blanks'))

/-- The words of the entries of a list or an object, from behind the opening bracket or
from behind an entry, through the closing bracket. -/
inductive SpellsEntries {β : Type} (spells : List Char -> β -> Prop) (closing : Char) :
    Bool -> List Char -> List β -> Prop where
  | closed {first : Bool} {blanks : List Char} : Blanks blanks ->
      SpellsEntries spells closing first (blanks ++ [closing]) []
  | entry {first : Bool} {lead word tail : List Char} {entry : β} {entries : List β} :
      SpellsLead first lead -> spells word entry ->
      SpellsEntries spells closing false tail entries ->
      SpellsEntries spells closing first (lead ++ (word ++ tail)) (entry :: entries)

inductive SpellsMember {β : Type} (spells : List Char -> β -> Prop) :
    List Char -> String × β -> Prop where
  | member {nameWord blanks blanks' word : List Char} {name : String} {content : β} :
      SpellsString nameWord name -> Blanks blanks -> Blanks blanks' -> spells word content ->
      SpellsMember spells (nameWord ++ (blanks ++ (':' :: (blanks' ++ word)))) (name, content)

/-!
# Values
-/

inductive Spells : List Char -> Value -> Prop where
  | null : Spells ['n', 'u', 'l', 'l'] .null
  | yes : Spells ['t', 'r', 'u', 'e'] (.bool true)
  | no : Spells ['f', 'a', 'l', 's', 'e'] (.bool false)
  | number {word : List Char} {number : Number} : SpellsNumber word number ->
      Spells word (.number number)
  | string {word : List Char} {text : String} : SpellsString word text ->
      Spells word (.string text)
  | array {word : List Char} {items : List Value} : SpellsEntries Spells ']' true word items ->
      Spells ('[' :: word) (.array items)
  | object {word : List Char} {members : List (String × Value)} :
      SpellsEntries (SpellsMember Spells) '\x7d' true word members ->
      Spells ('\x7b' :: word) (.object members)

def Value.NestedWithin : Nat -> Value -> Prop
  | 0, .array _ => False
  | 0, .object _ => False
  | depth + 1, .array items => forall item, item ∈ items -> NestedWithin depth item
  | depth + 1, .object members => forall member, member ∈ members -> NestedWithin depth member.2
  | _, _ => True

def Document (text : String) (value : Value) : Prop :=
  exists before word after, text.toList = before ++ (word ++ after) ∧ Blanks before ∧
    Blanks after ∧ Spells word value ∧ value.NestedWithin nestingLimit

end Json
end GraphLayout
