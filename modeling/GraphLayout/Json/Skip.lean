import GraphLayout.Json.Reader
import GraphLayout.Json.Numeral
import GraphLayout.Json.StringLiteral

/-!
# Skipping values

A value that nobody asks for is only passed over. Its punctuation is checked, but
neither the depth of its brackets nor the size of its numbers, and surrogates need
not come in pairs.
-/

namespace GraphLayout
namespace Json

/-!
# Numbers
-/

def skipDigits : List Char -> Except Failure (List Char)
  | [] => failBefore .invalidNumber []
  | c :: rest =>
      if c.isDigit then .ok (rest.dropWhile Char.isDigit)
      else failBehind .invalidNumber (c :: rest)

def skipWhole : List Char -> Except Failure (List Char)
  | [] => failBefore .invalidNumber []
  | c :: rest =>
      if c = '0' then
        match rest with
        | [] => .ok []
        | d :: more =>
            if d.isDigit then failBehind .invalidNumber (d :: more)
            else .ok (d :: more)
      else skipDigits (c :: rest)

def skipExponent : List Char -> Except Failure (List Char)
  | [] => .ok []
  | c :: rest =>
      if c = 'e' || c = 'E' then skipDigits (exponentSign rest).snd
      else .ok (c :: rest)

def skipFraction : List Char -> Except Failure (List Char)
  | [] => .ok []
  | c :: rest =>
      if c = '.' then skipDigits rest
      else .ok (c :: rest)

def skipNumber (text : List Char) : Except Failure (List Char) := do
  let rest ← skipWhole (if text.head? = some '-' then text.drop 1 else text)
  let rest ← skipFraction rest
  skipExponent rest

/-!
# Strings
-/

def skipEscape : List Char -> Except Failure (List Char)
  | [] => failBefore .endOfString []
  | c :: rest =>
      if (letterEscape? c).isSome then .ok rest
      else if c = 'u' then do
        let (_, rest) ← code rest
        .ok rest
      else failBehind .invalidEscape (c :: rest)

def skipCharsFrom : List Char -> List Char -> Except Failure (List Char)
  | [], _ => failBefore .endOfString []
  | _ :: _, [] => failBefore .endOfString []
  | _ :: budget, c :: rest =>
      if c = '"' then .ok rest
      else if c = '\\' then do
        let rest ← skipEscape rest
        skipCharsFrom budget rest
      else if isControl c then failBefore .controlCharacter (c :: rest)
      else skipCharsFrom budget rest

def skipString (text : List Char) : Except Failure (List Char) :=
  skipCharsFrom text text

/-!
# Lists and objects

The brackets that are open are kept in a list, the innermost one in front.
-/

inductive Bracket where
  | list
  | object
  deriving DecidableEq, Repr

namespace Bracket

def closing : Bracket -> Char
  | list => ']'
  | object => '\x7d'

def unclosed : Bracket -> Cause
  | list => .endOfList
  | object => .endOfObject

def expectedComma : Bracket -> Cause
  | list => .expectedCommaInList
  | object => .expectedCommaInObject

end Bracket

def skipKey (text : List Char) : Except Failure (List Char) :=
  match skipBlanks text with
  | [] => failBefore .endOfObject []
  | c :: rest =>
      if c = '"' then do
        let rest ← skipString rest
        colon rest
      else failBehind .keyNotString (c :: rest)

def enterEntry (bracket : Bracket) (text : List Char) : Except Failure (List Char) :=
  match bracket with
  | .list => .ok text
  | .object => skipKey text

/-!
# Values
-/

def skipAtom : List Char -> Except Failure (List Char)
  | [] => failBefore .endOfValue []
  | c :: rest =>
      if c = 'n' then (word () ['u', 'l', 'l'] rest).map Prod.snd
      else if c = 't' then (word () ['r', 'u', 'e'] rest).map Prod.snd
      else if c = 'f' then (word () ['a', 'l', 's', 'e'] rest).map Prod.snd
      else if c = '"' then skipString rest
      else if startsNumber c then skipNumber (c :: rest)
      else failBehind .expectedValue (c :: rest)

def Bracket.opening? (c : Char) : Option Bracket :=
  if c = '[' then some .list
  else if c = '\x7b' then some .object
  else none

/-- Passes over a value, or over what follows a value, up to the end of the outermost
value. Each turn but the last takes at least one character, so that the text is a
budget of the turns. -/
def skipFrom : List Char -> Bool -> List Bracket -> List Char -> Except Failure (List Char)
  | _, true, [], text => .ok text
  | [], true, bracket :: _, _ => failBefore bracket.unclosed []
  | [], false, _, _ => failBefore .endOfValue []
  | _ :: budget, true, bracket :: outer, text =>
      match skipBlanks text with
      | [] => failBefore bracket.unclosed []
      | c :: rest =>
          if c = ',' then do
            let rest ← enterEntry bracket rest
            skipFrom budget false (bracket :: outer) rest
          else if c = bracket.closing then skipFrom budget true outer rest
          else failBehind bracket.expectedComma (c :: rest)
  | _ :: budget, false, outer, text =>
      match skipBlanks text with
      | [] => failBefore .endOfValue []
      | c :: rest =>
          match Bracket.opening? c with
          | some bracket =>
              match skipBlanks rest with
              | [] => failBefore bracket.unclosed []
              | d :: more =>
                  if d = bracket.closing then skipFrom budget true outer more
                  else do
                    let rest ← enterEntry bracket (d :: more)
                    skipFrom budget false (bracket :: outer) rest
          | none => do
              let rest ← skipAtom (c :: rest)
              skipFrom budget true outer rest

def skipValue (text : List Char) : Except Failure (List Char) :=
  skipFrom text false [] text

end Json
end GraphLayout
