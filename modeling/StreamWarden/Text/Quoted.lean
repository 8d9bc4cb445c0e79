import StreamWarden.Text.Unseen

/-!
# Quoted texts

A text between quotation marks. A mark or backslash inside it follows a
backslash, and what would show nothing is written by a letter or by its code
point.

* `quote` quotes a text.
* `showFields` and `showWrapped` write values made of others.
-/

namespace StreamWarden.Text

/-- The code point of a character between braces. -/
def codePoint (c : Char) : List Char :=
  ['\\', 'u', '\x7b'] ++ Nat.toDigits 16 c.toNat ++ ['\x7d']

/-- How a character is written inside a quoted text. -/
def quoteChar (c : Char) : List Char :=
  if c = '"' then ['\\', '"']
  else if c = '\\' then ['\\', '\\']
  else if c = '\n' then ['\\', 'n']
  else if c = '\r' then ['\\', 'r']
  else if c = '\t' then ['\\', 't']
  else if c = '\x00' then ['\\', '0']
  else if isEscaped c then codePoint c
  else [c]

/-- A text between quotation marks. -/
def quote (s : String) : String :=
  String.ofList ('"' :: s.toList.flatMap quoteChar ++ ['"'])

/-- A value with named parts. -/
def showFields (name : String) (parts : List (String × String)) : String :=
  name ++ " \x7b " ++ ", ".intercalate (parts.map fun p => p.1 ++ ": " ++ p.2) ++ " \x7d"

/-- A value with one part that has no name. -/
def showWrapped (name part : String) : String := name ++ "(" ++ part ++ ")"

end StreamWarden.Text
