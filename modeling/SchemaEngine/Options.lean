/-!
# Options of a parse

One option says what happens after the first failure inside an object or a
sequence: the parse ends there, or goes on and collects every failure.
-/

namespace SchemaEngine

/-- How to parse. -/
structure Options where
  /-- Whether the first failure inside an object or a sequence ends the parse. -/
  abortEarly : Bool := true
deriving DecidableEq

namespace Options

/-- Collects every failure. -/
def collectAll : Options := ⟨false⟩

/-- The options with the choice made anew. -/
def withAbortEarly (abortEarly : Bool) (_ : Options) : Options := ⟨abortEarly⟩

/-- A description of the options. -/
def describe (o : Options) : String :=
  "ParseOptions \x7b abort_early: " ++ (if o.abortEarly then "true" else "false") ++ " \x7d"

end Options

end SchemaEngine
