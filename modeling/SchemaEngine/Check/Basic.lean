import SchemaEngine.Schema.Basic

/-!
# Checks

A check is a ready-made refinement: a step with a condition on values of one type
and a message of its own.  Values of other types do not satisfy the condition.
-/

namespace SchemaEngine
namespace Check

/-- What a value that fails a requirement is told. -/
def must (requirement : String) : Message :=
  .computed fun v => "The value \"" ++ v.display ++ "\" must " ++ requirement ++ "."

/-- A refinement whose message is computed from the input. -/
def onInput (p : Condition) (m : Message) : Step := .refine (.condition p) (some m) .input

/-- A refinement whose message is computed from the output that fails. -/
def onOutput (p : Condition) (m : Message) : Step := .refine (.condition p) (some m) .output

end Check
end SchemaEngine
