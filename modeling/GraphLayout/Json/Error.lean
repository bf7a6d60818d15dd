import GraphLayout.Decimal.Style
import GraphLayout.Text.Quoted

/-!
# JSON errors

Why a text is refused, and where. A place in a text is counted in bytes, and may lie
within a character.
-/

namespace GraphLayout
namespace Json

/-!
# Places
-/

def byteCount (text : List Char) : Nat :=
  text.foldr (fun c count => c.utf8Size + count) 0

/-- A line of a text, counted from one, and a number of bytes into that line. -/
structure Position where
  line : Nat
  column : Nat
  deriving DecidableEq, Repr

namespace Position

def move (position : Position) : Nat -> List Char -> Position
  | _, [] => position
  | offset, c :: rest =>
      if offset < c.utf8Size then ⟨position.line, position.column + offset⟩
      else if c = '\n' then move ⟨position.line + 1, 0⟩ (offset - 1) rest
      else move ⟨position.line, position.column + c.utf8Size⟩ (offset - c.utf8Size) rest

def ofOffset (text : List Char) (offset : Nat) : Position :=
  move ⟨1, 0⟩ offset text

end Position

/-!
# Causes
-/

inductive Found where
  | null
  | bool (value : Bool)
  | whole (value : Int)
  | real (value : Float)
  | string (value : String)
  | sequence
  | map

inductive Wanted where
  | int64
  | uint32
  | float
  | string
  | map
  | unit
  | record (name : String)
  deriving DecidableEq, Repr

inductive Cause where
  | endOfValue
  | endOfString
  | endOfList
  | endOfObject
  | expectedValue
  | expectedWord
  | expectedColon
  | expectedCommaInList
  | expectedCommaInObject
  | trailingComma
  | trailingCharacters
  | keyNotString
  | controlCharacter
  | invalidEscape
  | loneSurrogate
  | endOfSurrogatePair
  | invalidNumber
  | numberOutOfRange
  | nestingLimit
  | invalidType (found : Found) (wanted : Wanted)
  | outOfRange (value : Int) (wanted : Wanted)
  | duplicateField (name : String)
  | missingField (name : String)
  | tooFewItems (count : Nat) (record : String) (wanted : Nat)
  | unknownVariant (name : String) (known : List String)

/-!
# Texts
-/

/-- Numbers are positional as long as the place of their leading digit is from the
fifth after the point to the sixteenth before it. -/
def numberStyle : Decimal.Style where
  lowest := -5
  highest := 15

def accented (text : String) : String :=
  "`" ++ text ++ "`"

def Found.description : Found -> String
  | null => "null"
  | bool value => "boolean " ++ accented (if value then "true" else "false")
  | whole value => "integer " ++ accented value.repr
  | real value => "floating point " ++ accented (numberStyle.write value)
  | string value => "string " ++ Text.quoted value
  | sequence => "sequence"
  | map => "map"

def Wanted.description : Wanted -> String
  | int64 => "i64"
  | uint32 => "u32"
  | float => "f64"
  | string => "a string"
  | map => "a map"
  | unit => "unit"
  | record name => "struct " ++ name

def Cause.message : Cause -> String
  | endOfValue => "EOF while parsing a value"
  | endOfString => "EOF while parsing a string"
  | endOfList => "EOF while parsing a list"
  | endOfObject => "EOF while parsing an object"
  | expectedValue => "expected value"
  | expectedWord => "expected ident"
  | expectedColon => "expected " ++ accented ":"
  | expectedCommaInList => "expected " ++ accented "," ++ " or " ++ accented "]"
  | expectedCommaInObject => "expected " ++ accented "," ++ " or " ++ accented "\x7d"
  | trailingComma => "trailing comma"
  | trailingCharacters => "trailing characters"
  | keyNotString => "key must be a string"
  | controlCharacter =>
      "control character (\\u0000-\\u001F) found while parsing a string"
  | invalidEscape => "invalid escape"
  | loneSurrogate => "lone leading surrogate in hex escape"
  | endOfSurrogatePair => "unexpected end of hex escape"
  | invalidNumber => "invalid number"
  | numberOutOfRange => "number out of range"
  | nestingLimit => "recursion limit exceeded"
  | invalidType found wanted =>
      "invalid type: " ++ found.description ++ ", expected " ++ wanted.description
  | outOfRange value wanted =>
      "invalid value: integer " ++ accented value.repr ++ ", expected " ++ wanted.description
  | duplicateField name => "duplicate field " ++ accented name
  | missingField name => "missing field " ++ accented name
  | tooFewItems count record wanted =>
      "invalid length " ++ count.repr ++ ", expected struct " ++ record ++ " with " ++
        wanted.repr ++ " elements"
  | unknownVariant name known =>
      "unknown variant " ++ accented name ++ ", expected " ++
        " or ".intercalate (known.map accented)

inductive Error where
  | located (cause : Cause) (position : Position)
  /-- The text is JSON, but its value has none of the shapes that are accepted. -/
  | noShape

def Error.message : Error -> String
  | located cause position =>
      cause.message ++ " at line " ++ position.line.repr ++ " column " ++ position.column.repr
  | noShape => "data did not match any variant of untagged enum GraphPayload"

end Json
end GraphLayout
