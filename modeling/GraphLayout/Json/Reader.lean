import GraphLayout.Json.Error

/-!
# Readers

A reader takes a value off the front of a text, and leaves the rest. A failure tells
its place by the number of bytes from there to the end of the text, so that a reader
need not know what came before.
-/

namespace GraphLayout
namespace Json

structure Failure where
  cause : Cause
  /-- The bytes from the place of the failure to the end of the text. -/
  left : Nat

abbrev Reader (β : Type) :=
  List Char -> Except Failure (β × List Char)

variable {β : Type}

def failBefore (cause : Cause) (rest : List Char) : Except Failure β :=
  .error ⟨cause, byteCount rest⟩

/-- Fails behind the first byte of a text, or at its end. -/
def failBehind (cause : Cause) (rest : List Char) : Except Failure β :=
  .error ⟨cause, byteCount rest - 1⟩

/-!
# Blanks and words
-/

def isBlank (c : Char) : Bool :=
  c = ' ' || c = '\n' || c = '\t' || c = '\r'

def skipBlanks (text : List Char) : List Char :=
  text.dropWhile isBlank

def word (value : β) : List Char -> Reader β
  | [], text => .ok (value, text)
  | _ :: _, [] => failBefore .endOfValue []
  | expected :: more, c :: rest =>
      if c = expected then word value more rest
      else failBehind .expectedWord (c :: rest)

/-!
# Punctuation
-/

inductive Next where
  | closed (rest : List Char)
  | entry (rest : List Char)

def nextItem (first : Bool) (text : List Char) : Except Failure Next :=
  match skipBlanks text with
  | [] => failBefore .endOfList []
  | c :: rest =>
      if c = ']' then .ok (.closed rest)
      else if first then .ok (.entry (c :: rest))
      else if c = ',' then
        match skipBlanks rest with
        | [] => failBefore .endOfValue []
        | d :: rest =>
            if d = ']' then failBehind .trailingComma (d :: rest)
            else .ok (.entry (d :: rest))
      else failBehind .expectedCommaInList (c :: rest)

def keyMark : List Char -> Except Failure Next
  | [] => failBefore .endOfValue []
  | c :: rest =>
      if c = '"' then .ok (.entry rest)
      else if c = '\x7d' then failBehind .trailingComma (c :: rest)
      else failBehind .keyNotString (c :: rest)

def nextMember (first : Bool) (text : List Char) : Except Failure Next :=
  match skipBlanks text with
  | [] => failBefore .endOfObject []
  | c :: rest =>
      if c = '\x7d' then .ok (.closed rest)
      else if first then keyMark (c :: rest)
      else if c = ',' then keyMark (skipBlanks rest)
      else failBehind .expectedCommaInObject (c :: rest)

def colon (text : List Char) : Except Failure (List Char) :=
  match skipBlanks text with
  | [] => failBefore .endOfObject []
  | c :: rest =>
      if c = ':' then .ok rest
      else failBehind .expectedColon (c :: rest)

def finish (text : List Char) : Except Failure Unit :=
  match skipBlanks text with
  | [] => .ok ()
  | rest => failBehind .trailingCharacters rest

/-!
# Lists and objects

Every entry takes at least one character. So the text in which a list or an object is
read has a character for every turn, and serves as the budget of the turns.
-/

def itemsFrom (item : Reader β) : List Char -> Bool -> Reader (List β)
  | [], _, text => failBefore .endOfList text
  | _ :: budget, first, text => do
      match ← nextItem first text with
      | .closed rest => .ok ([], rest)
      | .entry rest =>
          let (value, rest) ← item rest
          let (values, rest) ← itemsFrom item budget false rest
          .ok (value :: values, rest)

def items (item : Reader β) : Reader (List β) := fun text =>
  itemsFrom item text true text

def membersFrom (key : Reader String) (value : Reader β) :
    List Char -> Bool -> Reader (List (String × β))
  | [], _, text => failBefore .endOfObject text
  | _ :: budget, first, text => do
      match ← nextMember first text with
      | .closed rest => .ok ([], rest)
      | .entry rest =>
          let (name, rest) ← key rest
          let rest ← colon rest
          let (content, rest) ← value rest
          let (more, rest) ← membersFrom key value budget false rest
          .ok ((name, content) :: more, rest)

def members (key : Reader String) (value : Reader β) : Reader (List (String × β)) := fun text =>
  membersFrom key value text true text

/-!
# Whole texts
-/

def Failure.locate (text : List Char) (failure : Failure) : Error :=
  .located failure.cause (.ofOffset text (byteCount text - failure.left))

def readAll (reader : Reader β) (text : String) : Except Error β :=
  let chars := text.toList
  let reading : Except Failure β := do
    let (value, rest) ← reader chars
    finish rest
    .ok value
  reading.mapError (Failure.locate chars)

end Json
end GraphLayout
