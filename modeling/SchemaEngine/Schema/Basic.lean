import SchemaEngine.Schema.Draws
import SchemaEngine.Value.Conversion
import SchemaEngine.Value.Condition
import SchemaEngine.Message

/-!
# Schemas

A `Schema` is a node: a shape, which says what values the node accepts and into
what they are taken apart, a label, and steps, which modify the node one after the
other.  A step acts as if it wrapped the node with all steps attached before it.

Shapes hold schemas (the fields of an object, the element of a sequence, the
candidates of a union), and so do steps (`pipe`, and refinements whose test runs
schemas); schema, shape, step and test are therefore defined together.

What a node accepts is a matter of its shape alone: `Schema.primitive` is the kind
and the test that go with it.
-/

namespace SchemaEngine

/-- What a schema is called and what it says when it rejects a value. -/
structure Label where
  /-- The name, which stands for the schema in descriptions. -/
  name : Option String := none
  /-- What replaces the standard message when a value is of the wrong type. -/
  message : Option Message := none

/-- Whose text the message of a refinement is computed from. -/
inductive Subject where
  /-- The input of the refined node. -/
  | input
  /-- The output that failed. -/
  | output
deriving DecidableEq

mutual

/-- A schema: a shape, a label, and steps in the order in which they were attached. -/
inductive Schema where
  | node (shape : Shape) (label : Label) (steps : List Step)

/-- What a schema accepts and takes apart. -/
inductive Shape where
  /-- Values of a kind, told by a test. -/
  | leaf (kind : String) (test : Test)
  /-- Objects, taken apart into fields by name. -/
  | object (fields : List (String × Schema))
  /-- Sequences, taken apart into items. -/
  | array (element : Schema)
  /-- The texts of a list. -/
  | enumeration (values : List String)
  /-- The values equal to one value. -/
  | literal (value : Value)
  /-- What the first candidate that accepts a value makes of it. -/
  | union (candidates : List Schema)

/-- A modification of a schema. -/
inductive Step where
  /-- Lets an absent value pass. -/
  | optional
  /-- Lets null pass. -/
  | nullable
  /-- Lets null and an absent value pass. -/
  | nullish
  /-- Replaces an absent value before anything else. -/
  | default (fallback : Fallback)
  /-- Converts the input before anything else. -/
  | preprocess (f : Conversion)
  /-- Converts the output. -/
  | transform (f : Conversion)
  /-- Passes the output on to another schema. -/
  | pipe (next : Schema)
  /-- Rejects an output that fails a test. -/
  | refine (test : Test) (message : Option Message) (subject : Subject)

/-- A test of a value. -/
inductive Test where
  /-- The value satisfies a condition. -/
  | condition (p : Condition)
  /-- One of the schemas accepts the value. -/
  | accepted (candidates : List Schema)
  /-- The value fails a test. -/
  | not (test : Test)

end

/-- A kind of value: its name and the test that tells its values. -/
structure Primitive where
  /-- The name of the kind. -/
  kind : String
  /-- The test that values of the kind pass. -/
  test : Test

namespace Primitive

/-- Texts. -/
def string : Primitive := ⟨"string", .condition (Condition.text fun _ => true)⟩

/-- Numbers other than NaN. -/
def number : Primitive := ⟨"number", .condition (Condition.number fun x => !x.isNaN)⟩

/-- Truth values. -/
def boolean : Primitive := ⟨"boolean", .condition fun v => v.bool?.isSome⟩

/-- Moments. -/
def date : Primitive := ⟨"date", .condition fun v => v.date?.isSome⟩

/-- Objects. -/
def object : Primitive := ⟨"object", .condition fun v => v.members?.isSome⟩

/-- Sequences. -/
def array : Primitive := ⟨"array", .condition (Condition.items fun _ => true)⟩

/-- Every value, absent ones too. -/
def any : Primitive := ⟨"any", .condition fun _ => true⟩

/-- The texts of a list. -/
def oneOf (values : List String) : Primitive :=
  ⟨"enum", .condition (Condition.text fun s => values.contains s)⟩

/-- The values equal to one value. -/
def equals (v : Value) : Primitive := ⟨"literal", .condition fun w => w.equals v⟩

/-- The values that one of the schemas accepts. -/
def union (candidates : List Schema) : Primitive := ⟨"union", .accepted candidates⟩

/-- A description of a kind. -/
def describe (p : Primitive) : String :=
  "ValidationPrimitive \x7b kind: " ++ Text.quoted p.kind ++ ", .. \x7d"

end Primitive

/-- The kind of value that goes with a shape. -/
def Shape.primitive : Shape → Primitive
  | .leaf kind test => ⟨kind, test⟩
  | .object _ => .object
  | .array _ => .array
  | .enumeration values => .oneOf values
  | .literal value => .equals value
  | .union candidates => .union candidates

namespace Schema

/-- The shape of a schema. -/
def shape : Schema → Shape
  | .node shape _ _ => shape

/-- The label of a schema. -/
def label : Schema → Label
  | .node _ label _ => label

/-- The steps of a schema, first attached first. -/
def steps : Schema → List Step
  | .node _ _ steps => steps

/-- The kind of value that a schema accepts before any step. -/
def primitive (s : Schema) : Primitive := s.shape.primitive

/-- The name of that kind. -/
def kind (s : Schema) : String := s.primitive.kind

/-- A schema with one more step. -/
def attach (step : Step) : Schema → Schema
  | .node shape label steps => .node shape label (steps ++ [step])

/-- A schema with more steps, the first of the list first. -/
def attachAll (more : List Step) (s : Schema) : Schema :=
  more.foldl (fun s step => s.attach step) s

@[simp] theorem steps_attach (s : Schema) (step : Step) :
    (s.attach step).steps = s.steps ++ [step] := by
  cases s; rfl

@[simp] theorem shape_attach (s : Schema) (step : Step) :
    (s.attach step).shape = s.shape := by
  cases s; rfl

@[simp] theorem label_attach (s : Schema) (step : Step) :
    (s.attach step).label = s.label := by
  cases s; rfl

theorem attachAll_node (shape : Shape) (label : Label) (steps more : List Step) :
    (node shape label steps).attachAll more = node shape label (steps ++ more) := by
  induction more generalizing steps with
  | nil => rw [List.append_nil]; rfl
  | cons step more ih =>
    rw [List.append_cons]
    exact ih (steps ++ [step])

/-! ## Schemas without steps -/

/-- The schema of a kind. -/
def leaf (p : Primitive) (label : Label) : Schema := .node (.leaf p.kind p.test) label []

/-- The schema of objects with the given fields: a repeated name keeps its first
place and takes its last schema. -/
def object (fields : List (String × Schema)) (label : Label) : Schema :=
  .node (.object (Entries.ofList fields)) label []

/-- The schema of sequences with the given element. -/
def array (element : Schema) (label : Label) : Schema := .node (.array element) label []

/-- The schema of the texts of a list. -/
def enumeration (values : List String) (label : Label) : Schema :=
  .node (.enumeration values) label []

/-- The schema of the values equal to one value. -/
def literal (value : Value) (label : Label) : Schema := .node (.literal value) label []

/-- The schema that gives a value to the first candidate that accepts it. -/
def union (candidates : List Schema) (label : Label) : Schema :=
  .node (.union candidates) label []

/-! ## Schemas with one more step -/

/-- Lets an absent value pass. -/
def optional (s : Schema) : Schema := s.attach .optional

/-- Lets null pass. -/
def nullable (s : Schema) : Schema := s.attach .nullable

/-- Lets null and an absent value pass. -/
def nullish (s : Schema) : Schema := s.attach .nullish

/-- Replaces an absent value by a fixed one. -/
def default (v : Value) (s : Schema) : Schema := s.attach (.default (.value v))

/-- Replaces an absent value by the next value of a source. -/
def defaultFrom (source : Nat) (g : Nat → Value) (s : Schema) : Schema :=
  s.attach (.default (.source source g))

/-- Converts the input before anything else. -/
def preprocess (f : Conversion) (s : Schema) : Schema := s.attach (.preprocess f)

/-- Converts the output. -/
def transform (f : Conversion) (s : Schema) : Schema := s.attach (.transform f)

/-- Passes the output on to another schema. -/
def pipe (next : Schema) (s : Schema) : Schema := s.attach (.pipe next)

/-- Rejects an output that fails a condition. -/
def refine (p : Condition) (s : Schema) : Schema :=
  s.attach (.refine (.condition p) none .input)

/-- Rejects an output that fails a condition, with a message computed from the
input. -/
def refineWith (p : Condition) (m : Message) (s : Schema) : Schema :=
  s.attach (.refine (.condition p) (some m) .input)

/-- Rejects an output that fails a condition, with a message computed from that
output. -/
def refineOutputWith (p : Condition) (m : Message) (s : Schema) : Schema :=
  s.attach (.refine (.condition p) (some m) .output)

end Schema

end SchemaEngine
