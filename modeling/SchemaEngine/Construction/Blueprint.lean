import SchemaEngine.Schema.Signature
import SchemaEngine.Check.Text

/-!
# Blueprints

A `Blueprint` describes a schema that is still to be built.  It says more than a
finished schema can: steps that first have to draw up a source or read a pattern,
operations that a schema carries under a name, invocations of such operations, and
references to schemas that were built before.

An operation answers arguments with the steps to attach, or refuses them.  A
finished schema together with its operations is a `Node`.
-/

namespace SchemaEngine

/-- Why a request about extensions or operations is refused. -/
inductive Refusal where
  /-- The registry takes no more extensions. -/
  | sealed
  /-- The schema carries no operation of the name. -/
  | unknownOperation (name kind : String)
  /-- The operation cannot work with its arguments. -/
  | invalidArguments (operation reason : String)
deriving DecidableEq

/-- What is said of a refusal. -/
def Refusal.message : Refusal → String
  | .sealed => "extension registry is sealed"
  | .unknownOperation name kind => "no operation '" ++ name ++ "' on " ++ kind ++ " schema"
  | .invalidArguments operation reason =>
    "invalid arguments for '" ++ operation ++ "': " ++ reason

mutual

/-- A schema to be built. -/
inductive Blueprint where
  /-- A new node: its shape, its label, and then its steps. -/
  | node (shape : ShapePlan) (label : Label) (steps : List StepPlan)
  /-- A node that was built before, and then more steps. -/
  | reference (id : String) (steps : List StepPlan)

/-- A shape to be built. -/
inductive ShapePlan where
  /-- Values of a kind, told by a test. -/
  | leaf (kind : String) (test : TestPlan)
  /-- Objects with fields. -/
  | object (fields : List (String × Blueprint))
  /-- Sequences of an element. -/
  | array (element : Blueprint)
  /-- The texts of a list. -/
  | enumeration (values : List String)
  /-- The values equal to one value. -/
  | literal (value : Value)
  /-- The first of some candidates. -/
  | union (candidates : List Blueprint)

/-- A step to be attached. -/
inductive StepPlan where
  /-- A finished step. -/
  | attach (step : Step)
  /-- A default from a new source. -/
  | defaultFrom (g : Nat → Value)
  /-- Another schema for the output. -/
  | pipe (next : Blueprint)
  /-- A refinement. -/
  | refine (test : TestPlan) (message : Option Message) (subject : Subject)
  /-- A check of texts against a pattern that is still to be read. -/
  | pattern (source : String)
  /-- An operation under a name. -/
  | operation (name : String) (rule : List Value → Except Refusal (List StepPlan))
  /-- The steps with which an operation of the node answers some arguments. -/
  | invoke (name : String) (arguments : List Value)

/-- A test to be built. -/
inductive TestPlan where
  /-- A finished test. -/
  | finished (test : Test)
  /-- A schema accepts the value. -/
  | accepted (b : Blueprint)
  /-- The value fails a test. -/
  | not (test : TestPlan)

end

/-- An operation: what it attaches for some arguments, if it does not refuse them. -/
abbrev Operation := List Value → Except Refusal (List StepPlan)

/-- What an extension is told of a node. -/
structure NodeInfo where
  /-- The kind of values that the node accepts. -/
  kind : String
  /-- The name of the node. -/
  name : Option String
  /-- The message of the node. -/
  message : Option Message

/-- A finished schema with its operations. -/
structure Node where
  /-- The schema. -/
  schema : Schema
  /-- The operations by name, in the order in which they were first attached. -/
  operations : Entries Operation

namespace Node

/-- A new node, without steps or operations. -/
def new (shape : Shape) (label : Label) : Node := ⟨.node shape label [], []⟩

/-- A node with one more step. -/
def attach (step : Step) (n : Node) : Node := { n with schema := n.schema.attach step }

/-- A node with an operation; an operation of the same name gives way to it. -/
def withOperation (name : String) (rule : Operation) (n : Node) : Node :=
  { n with operations := n.operations.put name rule }

/-- What extensions are told of a node. -/
def info (n : Node) : NodeInfo :=
  ⟨n.schema.kind, n.schema.label.name, n.schema.label.message⟩

/-- A description of a node. -/
def describe (n : Node) : String :=
  "Schema \x7b signature: " ++ Text.quoted n.schema.signature ++ ", steps: "
    ++ toString n.schema.steps.length ++ ", operations: "
    ++ Text.quotedList n.operations.names ++ " \x7d"

end Node

namespace Blueprint

/-- A new leaf of a kind. -/
def leaf (p : Primitive) (label : Label) (steps : List StepPlan) : Blueprint :=
  .node (.leaf p.kind (.finished p.test)) label steps

/-- A blueprint with more steps. -/
def withSteps (more : List StepPlan) : Blueprint → Blueprint
  | .node shape label steps => .node shape label (steps ++ more)
  | .reference id steps => .reference id (steps ++ more)

end Blueprint

/-- A refinement with a condition. -/
def StepPlan.check (p : Condition) (message : Option Message) (subject : Subject) : StepPlan :=
  .attach (.refine (.condition p) message subject)

namespace Operation

/-- Attaches the same steps for all arguments. -/
def always (steps : List StepPlan) : Operation := fun _ => .ok steps

/-- Refuses all arguments. -/
def refusing (operation reason : String) : Operation :=
  fun _ => .error (.invalidArguments operation reason)

/-- A lower bound: the first argument, which must be a number. -/
def atLeast : Operation := fun arguments =>
  match arguments.head? with
  | some (.number x) => .ok [.check (Condition.atLeast x) none .input]
  | _ => .error (.invalidArguments "at_least" "expected a number")

/-- The text that texts must begin with: the first argument, which must be a text. -/
def startsWith : Operation := fun arguments =>
  match arguments.head? with
  | some (.text t) => .ok [.attach (Check.startsWith t)]
  | _ => .error (.invalidArguments "prefix" "expected a string")

/-- Makes the sequence of the arguments of every output. -/
def collect : Operation := fun arguments =>
  .ok [.attach (.transform fun _ => .array arguments)]

/-- Invokes another operation with the same arguments. -/
def call (name : String) : Operation := fun arguments => .ok [.invoke name arguments]

end Operation

end SchemaEngine
