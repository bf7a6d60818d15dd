import GraphLayout.Json.Reader

/-!
# String literals

The text of a JSON string from behind its opening quotation mark. A character beyond
the first 65536 may be written as a pair of surrogates, each by its code.
-/

namespace GraphLayout
namespace Json

/-!
# Codes
-/

def hexDigit? (c : Char) : Option Nat :=
  if '0' ≤ c ∧ c ≤ '9' then some (c.toNat - '0'.toNat)
  else if 'a' ≤ c ∧ c ≤ 'f' then some (c.toNat - 'a'.toNat + 10)
  else if 'A' ≤ c ∧ c ≤ 'F' then some (c.toNat - 'A'.toNat + 10)
  else none

def hexValue? (a b c d : Char) : Option Nat := do
  let a ← hexDigit? a
  let b ← hexDigit? b
  let c ← hexDigit? c
  let d ← hexDigit? d
  some (((a * 16 + b) * 16 + c) * 16 + d)

/-- Refuses a code that is not four hexadecimal digits. Four bytes are taken for it,
and too few of them end the string. -/
def badCode : Reader Nat := fun text =>
  if byteCount text < 4 then failBefore .endOfString []
  else .error ⟨.invalidEscape, byteCount text - 4⟩

def code : Reader Nat
  | a :: b :: c :: d :: rest =>
      match hexValue? a b c d with
      | some value => .ok (value, rest)
      | none => badCode (a :: b :: c :: d :: rest)
  | text => badCode text

def isLeading (code : Nat) : Bool :=
  0xD800 ≤ code && code ≤ 0xDBFF

def isTrailing (code : Nat) : Bool :=
  0xDC00 ≤ code && code ≤ 0xDFFF

def pairValue (leading trailing : Nat) : Nat :=
  0x10000 + (leading - 0xD800) * 0x400 + (trailing - 0xDC00)

/-!
# Escapes
-/

def letterEscape? (c : Char) : Option Char :=
  if c = '"' then some '"'
  else if c = '\\' then some '\\'
  else if c = '/' then some '/'
  else if c = 'b' then some '\x08'
  else if c = 'f' then some '\x0c'
  else if c = 'n' then some '\n'
  else if c = 'r' then some '\r'
  else if c = 't' then some '\t'
  else none

def pairMark (mark : Char) : List Char -> Except Failure (List Char)
  | [] => failBefore .endOfString []
  | c :: rest =>
      if c = mark then .ok rest
      else failBehind .endOfSurrogatePair (c :: rest)

def trailingHalf (leading : Nat) : Reader Char := fun text => do
  let rest ← pairMark '\\' text
  let rest ← pairMark 'u' rest
  let (trailing, rest) ← code rest
  if isTrailing trailing then .ok (Char.ofNat (pairValue leading trailing), rest)
  else failBefore .loneSurrogate rest

def codedChar : Reader Char := fun text => do
  let (value, rest) ← code text
  if isTrailing value then failBefore .loneSurrogate rest
  else if isLeading value then trailingHalf value rest
  else .ok (Char.ofNat value, rest)

def escape : Reader Char
  | [] => failBefore .endOfString []
  | c :: rest =>
      match letterEscape? c with
      | some value => .ok (value, rest)
      | none =>
          if c = 'u' then codedChar rest
          else failBehind .invalidEscape (c :: rest)

/-!
# Strings

Every turn takes at least one character, so that the text is a budget of the turns.
-/

def isControl (c : Char) : Bool :=
  c.toNat < 0x20

def charsFrom : List Char -> Reader (List Char)
  | [], _ => failBefore .endOfString []
  | _ :: _, [] => failBefore .endOfString []
  | _ :: budget, c :: rest =>
      if c = '"' then .ok ([], rest)
      else if c = '\\' then do
        let (value, rest) ← escape rest
        let (values, rest) ← charsFrom budget rest
        .ok (value :: values, rest)
      else if isControl c then failBehind .controlCharacter (c :: rest)
      else do
        let (values, rest) ← charsFrom budget rest
        .ok (c :: values, rest)

def stringTail : Reader String := fun text => do
  let (chars, rest) ← charsFrom text text
  .ok (String.ofList chars, rest)

end Json
end GraphLayout
