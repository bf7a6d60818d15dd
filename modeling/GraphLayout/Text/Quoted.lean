import GraphLayout.Text.Invisible

/-!
# Quoted text

A text is quoted so that every character of it can be seen: the quotation mark and
the backslash follow a backslash, the commonest controls have a letter, and every
other invisible character is written by its code point.
-/

namespace GraphLayout
namespace Text

def codePoint (c : Char) : List Char :=
  ['\\', 'u', '\x7b'] ++ Nat.toDigits 16 c.toNat ++ ['\x7d']

def quotedChar (c : Char) : List Char :=
  if c = '"' then ['\\', '"']
  else if c = '\\' then ['\\', '\\']
  else if c = '\n' then ['\\', 'n']
  else if c = '\r' then ['\\', 'r']
  else if c = '\t' then ['\\', 't']
  else if c = '\x00' then ['\\', '0']
  else if isInvisible c then codePoint c
  else [c]

def quoted (text : String) : String :=
  String.ofList (['"'] ++ text.toList.flatMap quotedChar ++ ['"'])

end Text
end GraphLayout
