import SchemaEngine.Unicode.Printable

/-!
# Quoted texts

`quoted` writes a text between quotation marks.  The mark itself and the backslash
are written with a backslash before them, the null character and the three blanks that end
or shift a line by a sign after one, and any other character that cannot be shown by its
number, in hexadecimal digits between braces.  So a quoted text fits on one line and its end
is the first mark that no backslash precedes.
-/

namespace SchemaEngine
namespace Text

/-- One character of a quoted text. -/
def quotedChar (c : Char) : List Char :=
  if c = '"' then ['\\', '"']
  else if c = '\\' then ['\\', '\\']
  else if c = '\n' then ['\\', 'n']
  else if c = '\r' then ['\\', 'r']
  else if c = '\t' then ['\\', 't']
  else if c = '\x00' then ['\\', '0']
  else if Unicode.isPrintable c then [c]
  else '\\' :: 'u' :: '\x7b' :: (Nat.toDigits 16 c.toNat ++ ['\x7d'])

/-- A text between quotation marks. -/
def quoted (s : String) : String :=
  "\"" ++ String.ofList (s.toList.flatMap quotedChar) ++ "\""

/-- Texts with a separator between each two. -/
def joined (separator : String) : List String → String
  | [] => ""
  | [s] => s
  | s :: t :: rest => s ++ separator ++ joined separator (t :: rest)

/-- Quoted texts between square brackets. -/
def quotedList (ss : List String) : String :=
  "[" ++ joined ", " (ss.map quoted) ++ "]"

end Text
end SchemaEngine
