import SchemaEngine.Number.Layout
import SchemaEngine.Entries
import SchemaEngine.Text.Quoted

/-!
# JSON documents

A `Json` document tells integers, which are written by their digits, from other
numbers, which are written in the `document` layout.  `Json.compact` writes a
document without any blank.
-/

namespace SchemaEngine

/-- A JSON document. -/
inductive Json where
  /-- The null document. -/
  | null
  /-- A truth value. -/
  | bool (b : Bool)
  /-- An integer. -/
  | integer (n : Int)
  /-- A number that is not written as an integer. -/
  | real (x : Double)
  /-- A text. -/
  | text (s : String)
  /-- A sequence of documents. -/
  | array (items : List Json)
  /-- Documents by name. -/
  | object (members : List (String × Json))

namespace Json

instance : Inhabited Json := ⟨.null⟩

/-- The hexadecimal digit of a number below sixteen. -/
def hexDigit (n : Nat) : Char :=
  if n < 10 then Char.ofNat ('0'.toNat + n) else Char.ofNat ('a'.toNat + (n - 10))

/-- One character of a text in JSON: quotation mark, backslash and control
characters are escaped. -/
def escaped (c : Char) : List Char :=
  if c = '"' then ['\\', '"']
  else if c = '\\' then ['\\', '\\']
  else if c = '\n' then ['\\', 'n']
  else if c = '\r' then ['\\', 'r']
  else if c = '\t' then ['\\', 't']
  else if c = '\x08' then ['\\', 'b']
  else if c = '\x0c' then ['\\', 'f']
  else if c.toNat < 32 then
    ['\\', 'u', '0', '0', hexDigit (c.toNat / 16), hexDigit (c.toNat % 16)]
  else [c]

/-- A text in JSON. -/
def textLiteral (s : String) : String :=
  "\"" ++ String.ofList (s.toList.flatMap escaped) ++ "\""

mutual

/-- A document as text, without blanks. -/
def compact : Json → String
  | .null => "null"
  | .bool true => "true"
  | .bool false => "false"
  | .integer n => toString n
  | .real x => x.render .document
  | .text s => textLiteral s
  | .array items => "[" ++ Text.joined "," (compactItems items) ++ "]"
  | .object members => "\x7b" ++ Text.joined "," (compactMembers members) ++ "\x7d"

/-- The texts of the items of a sequence. -/
def compactItems : List Json → List String
  | [] => []
  | j :: rest => j.compact :: compactItems rest

/-- The texts of the members of an object, each behind its name. -/
def compactMembers : List (String × Json) → List String
  | [] => []
  | (name, j) :: rest => (textLiteral name ++ ":" ++ j.compact) :: compactMembers rest

end

end Json

end SchemaEngine
