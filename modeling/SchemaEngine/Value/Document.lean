import SchemaEngine.Value.Basic
import SchemaEngine.Json

/-!
# Values and JSON documents

`Value.toJson` is the document of a value.  A document has no absent values, dates
or infinities: absent members of objects are left out, absent values elsewhere and
numbers that are not finite become null, dates become texts.  Members come in the
order of their names, so that objects with the same members have the same document.
`Value.ofJson` is the value of a document.

`Value.display` is the text of a value in messages: texts as they are, sequences
and objects as their document.
-/

namespace SchemaEngine

/-- The document of a number: integers smaller than `2 ^ 53` as integers, and what
is not finite as null. -/
def Double.toJson (x : Double) : Json :=
  match x.exactInteger? with
  | some n => .integer n
  | none => if x.isFinite then .real x else .null

namespace Value

mutual

/-- The document of a value. -/
def toJson : Value → Json
  | .undefined => .null
  | .null => .null
  | .bool b => .bool b
  | .number x => x.toJson
  | .text s => .text s
  | .date t => .text t.render
  | .array items => .array (documentItems items)
  | .object members => .object (Entries.sortByName (documentMembers members))

/-- The documents of the items of a sequence. -/
def documentItems : List Value → List Json
  | [] => []
  | v :: rest => v.toJson :: documentItems rest

/-- The documents of the members that are present. -/
def documentMembers : List (String × Value) → List (String × Json)
  | [] => []
  | (name, v) :: rest =>
    if v.isUndefined then documentMembers rest else (name, v.toJson) :: documentMembers rest

end

mutual

/-- The value of a document. -/
def ofJson : Json → Value
  | .null => .null
  | .bool b => .bool b
  | .integer n => .number (Double.ofInt n)
  | .real x => .number x
  | .text s => .text s
  | .array items => .array (valueItems items)
  | .object members => .object (valueMembers members)

/-- The values of the items of a sequence. -/
def valueItems : List Json → List Value
  | [] => []
  | j :: rest => ofJson j :: valueItems rest

/-- The values of the members of an object. -/
def valueMembers : List (String × Json) → List (String × Value)
  | [] => []
  | (name, j) :: rest => (name, ofJson j) :: valueMembers rest

end

/-- The text of a value in messages. -/
def display : Value → String
  | .undefined => "undefined"
  | .null => "null"
  | .bool true => "true"
  | .bool false => "false"
  | .number x => x.display
  | .text s => s
  | .date t => t.render
  | .array items => (Value.array items).toJson.compact
  | .object members => (Value.object members).toJson.compact

/-- The text of a value in messages, texts between quotation marks. -/
def shown : Value → String
  | .text s => "\"" ++ s ++ "\""
  | v => v.display

end Value

end SchemaEngine
