import SchemaEngine.Schema.Basic

/-!
# Signatures

The signature of a schema is a short text that says what it accepts: its name if it
has one, and otherwise its shape, with the signatures of what the shape holds.
-/

namespace SchemaEngine

/-- The texts of a list in quotation marks, with a bar between each two. -/
def quotedAlternatives (values : List String) : String :=
  Text.joined " | " (values.map fun s => "\"" ++ s ++ "\"")

mutual

/-- A short text that says what a schema accepts. -/
def Schema.signature : Schema → String
  | .node shape label _ => label.name.getD shape.signature

/-- A short text that says what a shape accepts. -/
def Shape.signature : Shape → String
  | .leaf kind _ => kind
  | .object _ => "object"
  | .array element => "array<" ++ element.signature ++ ">"
  | .enumeration values => "enum<" ++ quotedAlternatives values ++ ">"
  | .literal value => "literal<" ++ value.shown ++ ">"
  | .union candidates => "union<" ++ Text.joined " | " (signatures candidates) ++ ">"

/-- The signatures of a list of schemas. -/
def signatures : List Schema → List String
  | [] => []
  | s :: rest => s.signature :: signatures rest

end

@[simp] theorem Schema.signature_attach (step : Step) (s : Schema) :
    (s.attach step).signature = s.signature := by
  cases s; rfl

/-- The text that a union expects one of its candidates by. -/
def candidateSignatures (candidates : List Schema) : String :=
  if candidates.isEmpty then "(no candidates)" else Text.joined " | " (signatures candidates)

end SchemaEngine
