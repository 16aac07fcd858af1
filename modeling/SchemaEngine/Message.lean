import SchemaEngine.Value.Document

/-!
# Messages

The message of a rejection is a text, or a function of the rejected value.
-/

namespace SchemaEngine

/-- What is said when a value is rejected. -/
inductive Message where
  /-- The same text for every value. -/
  | fixed (text : String)
  /-- A text computed from the value. -/
  | computed (text : Value → String)

namespace Message

/-- The text for a value. -/
def render (v : Value) : Message → String
  | .fixed text => text
  | .computed text => text v

/-- The text of a value in messages, between two texts. -/
def aroundDisplay (before after : String) : Message :=
  .computed fun v => before ++ v.display ++ after

/-- The name of the type of a value, between two texts. -/
def aroundType (before after : String) : Message :=
  .computed fun v => before ++ v.typeName ++ after

/-- A description of a message that is no value's message. -/
def describe : Message → String
  | .fixed text => "Static(" ++ Text.quoted text ++ ")"
  | .computed _ => "Dynamic(<fn>)"

end Message

end SchemaEngine
