import SchemaEngine.Value.Equality
import SchemaEngine.Value.Document

/-!
# Conversions

A conversion is a function of values, which transforms and preprocessing apply.  Here
are the ready-made ones, to be named where a schema is described.  A conversion meant
for one type leaves values of the other types unchanged.
-/

namespace SchemaEngine

/-- A function from values to values. -/
abbrev Conversion := Value → Value

namespace Conversion

/-- Any value becomes its text in messages. -/
def display : Conversion := fun v => .text v.display

/-- Any value becomes the name of its type. -/
def typeName : Conversion := fun v => .text v.typeName

/-- A value becomes the value of its document. -/
def throughJson : Conversion := fun v => Value.ofJson v.toJson

/-- A value becomes the text of its document. -/
def jsonText : Conversion := fun v => .text v.toJson.compact

/-- A text becomes the number of its UTF-8 bytes, any other value zero. -/
def byteLength : Conversion
  | .text s => .number (Double.ofInt s.utf8ByteSize)
  | _ => .number (Double.zero false)

/-- A number becomes its double. -/
def twice : Conversion
  | .number x => .number (x.mul (Double.ofInt 2))
  | v => v

/-- A number becomes the number with the other sign. -/
def negate : Conversion
  | .number x => .number x.neg
  | v => v

/-- A value becomes the sequence of itself. -/
def wrap : Conversion := fun v => .array [v]

/-- Whether a character can stand in plain decimal text. -/
def isDecimalText (c : Char) : Bool := c.isDigit || c == '.' || c == '-'

/-- A text that spells a number without an exponent becomes the number. -/
def readNumber : Conversion
  | .text s =>
    if s.toList.all isDecimalText then
      match Double.read? s with
      | some x => .number x
      | none => .text s
    else .text s
  | v => v

/-- A value becomes its member at a name. -/
def member (name : String) : Conversion := fun v => v.member name

/-- An object gets a member. -/
def withMember (name : String) (x : Value) : Conversion := Value.withMember name x

/-- A value becomes its text in messages, with more text behind it. -/
def append (s : String) : Conversion := fun v => .text (v.display ++ s)

/-- A value equal to `a` becomes `b`. -/
def replaceEqual (a b : Value) : Conversion := fun v => if v.equals a then b else v

/-- A value of a type becomes `b`. -/
def replaceType (type : String) (b : Value) : Conversion :=
  fun v => if v.typeName == type then b else v

/-- One conversion after another, the first of the list first. -/
def chain : List Conversion → Conversion
  | [] => fun v => v
  | f :: rest => fun v => chain rest (f v)

end Conversion

end SchemaEngine
