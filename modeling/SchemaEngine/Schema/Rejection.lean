import SchemaEngine.Schema.Signature
import SchemaEngine.Failure.Basic

/-!
# Rejections

The three failures that a schema itself can report: the value is not of the type of
its shape, no candidate of a union accepts it, or a refinement fails.  Each has a
code and a standard message, which a message of the schema or of the refinement
replaces.
-/

namespace SchemaEngine

/-- What a shape says of a value that is not of its type, and under which code. -/
def Shape.mismatch (shape : Shape) (v : Value) : String × String :=
  match shape with
  | .enumeration values =>
    ("invalid_enum_value",
      "The value \"" ++ v.display ++ "\" must be one of " ++ quotedAlternatives values ++ ".")
  | .literal value =>
    ("invalid_literal",
      "The value \"" ++ v.display ++ "\" must be exactly " ++ value.shown ++ ".")
  | _ =>
    ("invalid_type",
      "The value \"" ++ v.display ++ "\" must be type of " ++ shape.primitive.kind
        ++ " but is type of \"" ++ v.typeName ++ "\".")

namespace Failure

/-- The value is not of the type of the shape. -/
def typeMismatch (shape : Shape) (label : Label) (v : Value) : Failure :=
  let (code, standard) := shape.mismatch v
  because ((label.message.map (Message.render v)).getD standard)
    |>.withCode code
    |>.withExpected (label.name.getD shape.signature)
    |>.withGot v.typeName

/-- No candidate accepts the value. -/
def noMatch (candidates : List Schema) (label : Label) (v : Value) : Failure :=
  let expected := candidateSignatures candidates
  let standard := "The value \"" ++ v.display ++ "\" of type \"" ++ v.typeName
    ++ "\" does not match any of: " ++ expected ++ "."
  because ((label.message.map (Message.render v)).getD standard)
    |>.withCode "union_no_match"
    |>.withExpected expected
    |>.withGot v.typeName

/-- A refinement fails on `output`; its message is computed from `shown`. -/
def refinement (message : Option Message) (shown output : Value) : Failure :=
  let standard := "The value \"" ++ shown.display ++ "\" failed a refinement check."
  because ((message.map (Message.render shown)).getD standard)
    |>.withCode "refinement"
    |>.withGot output.display

end Failure

end SchemaEngine
