import SchemaEngine.Schema.Rejection
import SchemaEngine.Options

/-!
# Parsing

`Schema.run` parses a value with a schema.  It walks the steps of the schema twice.
The inward walk (`layerInputs`) goes from the step attached last to the one
attached first and finds the input of every layer: a default replaces an absent
value, preprocessing converts the value, and every other step hands its input on.
Then the shape parses the innermost input (`Shape.base`).  The outward walk
(`outward`) goes from the step attached first to the one attached last and lets
each step accept, reject or convert what the layer below it produced, in view of
its own input.

An object parses its fields in the order of their declaration and a sequence its
items in order.  When failures are collected, the parse goes on past a failure;
otherwise the first failure ends it.

The only effect of a parse is on the draws of the sources of defaults.
-/

namespace SchemaEngine

/-- What a parse returns: the output, or at least one failure. -/
abbrev Outcome := Except Failures Value

/-! ## The inward walk -/

/-- The input of the layer below a step, given the input of the step. -/
def Step.innerInput : Step → Value → Drawing Value
  | .default fallback, .undefined => fallback.resolve
  | .preprocess f, v => pure (f v)
  | _, v => pure v

/-- The input of every layer, in the order of the steps, and the input of the base. -/
def layerInputs : List Step → Value → Drawing (List Value × Value)
  | [], v => pure ([], v)
  | step :: outer, v => do
    let (inputs, input) ← layerInputs outer v
    let inner ← step.innerInput input
    pure (input :: inputs, inner)

/-! ## Parts of a value -/

/-- What the parts of a value were parsed into: outputs, and failures. -/
structure Gathered (α : Type) where
  /-- The outputs of the parts that were accepted. -/
  outputs : List α
  /-- The failures of the parts that were not. -/
  failures : List Failure

/-- No part at all. -/
def Gathered.none {α : Type} : Gathered α := ⟨[], []⟩

/-- One more output in front. -/
def Gathered.accept {α : Type} (x : α) (g : Gathered α) : Gathered α :=
  { g with outputs := x :: g.outputs }

/-- More failures in front. -/
def Gathered.reject {α : Type} (es : Failures) (g : Gathered α) : Gathered α :=
  { g with failures := es.toList ++ g.failures }

/-- The value made of all outputs, unless there is a failure. -/
def Gathered.outcome {α : Type} (assemble : List α → Value) (g : Gathered α) : Outcome :=
  match Failures.ofList? g.failures with
  | some es => .error es
  | Option.none => .ok (assemble g.outputs)

/-- Parses the items of a sequence, from the index `i` on. -/
def gatherItems (parse : Value → Drawing Outcome) (o : Options) :
    Nat → List Value → Drawing (Gathered Value)
  | _, [] => pure .none
  | i, v :: rest => do
    match ← parse v with
    | .ok w => return (← gatherItems parse o (i + 1) rest).accept w
    | .error es =>
      let es := es.under (.index i)
      if o.abortEarly then return Gathered.none.reject es
      else return (← gatherItems parse o (i + 1) rest).reject es

/-- One more member in front, unless it is absent. -/
def Gathered.acceptMember (name : String) (v : Value) (g : Gathered (String × Value)) :
    Gathered (String × Value) :=
  if v.isUndefined then g else g.accept (name, v)

/-! ## Schemas, shapes, steps and tests -/

mutual

/-- Parses a value with a schema. -/
def Schema.run : Schema → Value → Options → Drawing Outcome
  | .node shape label steps, v, o => do
    let (inputs, input) ← layerInputs steps v
    outward steps inputs o (← shape.base label input o)

/-- Parses a value with a shape, before any step. -/
def Shape.base : Shape → Label → Value → Options → Drawing Outcome
  | .leaf kind test, label, v, _ => do
    if ← test.holds v then return .ok v
    else return .error (.single (.typeMismatch (.leaf kind test) label v))
  | .object fields, label, v, o => do
    match v with
    | .object members => return (← gatherFields fields members o).outcome Value.object
    | v => return .error (.single (.typeMismatch (.object fields) label v))
  | .array element, label, v, o => do
    match v with
    | .array items =>
      return (← gatherItems (fun w => element.run w o) o 0 items).outcome Value.array
    | v => return .error (.single (.typeMismatch (.array element) label v))
  | .enumeration values, label, v, _ => do
    match v with
    | .text s =>
      if values.contains s then return .ok (.text s)
      else return .error (.single (.typeMismatch (.enumeration values) label (.text s)))
    | v => return .error (.single (.typeMismatch (.enumeration values) label v))
  | .literal value, label, v, _ => do
    if v.equals value then return .ok v
    else return .error (.single (.typeMismatch (.literal value) label v))
  | .union candidates, label, v, o => do
    match ← firstAccepting candidates v o with
    | some w => return .ok w
    | none => return .error (.single (.noMatch candidates label v))

/-- Parses the fields of an object; a field that the object lacks is undefined. -/
def gatherFields : List (String × Schema) → Entries Value → Options →
    Drawing (Gathered (String × Value))
  | [], _, _ => pure .none
  | (name, s) :: rest, members, o => do
    match ← s.run ((members.find? name).getD .undefined) o with
    | .ok w => return (← gatherFields rest members o).acceptMember name w
    | .error es =>
      let es := es.under (.field name)
      if o.abortEarly then return Gathered.none.reject es
      else return (← gatherFields rest members o).reject es

/-- The output of the first schema that accepts a value. -/
def firstAccepting : List Schema → Value → Options → Drawing (Option Value)
  | [], _, _ => pure none
  | s :: rest, v, o => do
    match ← s.run v o with
    | .ok w => return some w
    | .error _ => firstAccepting rest v o

/-- Lets the steps act on a result, each in view of the input of its layer. -/
def outward : List Step → List Value → Options → Outcome → Drawing Outcome
  | step :: rest, input :: inputs, o, r => do outward rest inputs o (← step.act input o r)
  | _, _, _, r => pure r

/-- Lets one step act on the result of the layer below it. -/
def Step.act : Step → Value → Options → Outcome → Drawing Outcome
  | .optional, .undefined, _, .error _ => pure (.ok .undefined)
  | .nullable, .null, _, .error _ => pure (.ok .null)
  | .nullish, .undefined, _, .error _ => pure (.ok .undefined)
  | .nullish, .null, _, .error _ => pure (.ok .null)
  | .transform f, _, _, .ok w => pure (.ok (f w))
  | .pipe next, _, o, .ok w => next.run w o
  | .refine test message subject, input, _, .ok w => do
    if ← test.holds w then return .ok w
    else
      let shown := match subject with
        | .input => input
        | .output => w
      return .error (.single (.refinement message shown w))
  | _, _, _, r => pure r

/-- Whether a value passes a test. -/
def Test.holds : Test → Value → Drawing Bool
  | .condition p, v => pure (p v)
  | .accepted candidates, v => do return (← firstAccepting candidates v {}).isSome
  | .not test, v => do return !(← test.holds v)

end

namespace Schema

/-- Parses a value and returns all failures. -/
def safeParse (s : Schema) (o : Options) (v : Value) : Drawing Outcome := s.run v o

/-- Parses a value and returns the first failure. -/
def parse (s : Schema) (o : Options) (v : Value) : Drawing (Except Failure Value) := do
  match ← s.run v o with
  | .ok w => return .ok w
  | .error es => return .error es.first

/-- Whether a value is of the kind that goes with the shape of a schema. -/
def accepts (s : Schema) (v : Value) : Drawing Bool := s.primitive.test.holds v

end Schema

end SchemaEngine
