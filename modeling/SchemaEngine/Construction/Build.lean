import SchemaEngine.Construction.Registry
import SchemaEngine.Pattern.Reader

/-!
# Building

Building turns a blueprint into a node.  Nodes are built from the inside out: first
what the shape holds, in order, then the node itself, then its steps in order; a schema
inside a step is built when the step is reached.  The first thing that goes wrong ends the
building.  How the node itself comes about is left open (`Blueprint.buildBy`): in a session
it goes through the extensions of the shared registry (`Surroundings.construct`).

The steps with which an extension or an operation answers can contain blueprints of
their own, whose nodes again go through the extensions.  Such answers can be nested
without end, so `attachNested` carries a depth and `Building` can fail for it; the
steps of a blueprint itself need none.
-/

namespace SchemaEngine

/-- Why a blueprint cannot be built. -/
inductive BuildError where
  /-- A text is not a pattern. -/
  | badPattern (reason : PatternError)
  /-- An operation is missing or refuses its arguments. -/
  | refused (reason : Refusal)
  /-- A reference names no node. -/
  | unknownNode (id : String)
  /-- Answers of extensions or operations are nested too deeply. -/
  | tooDeep
deriving DecidableEq

/-- What building changes. -/
structure Site where
  /-- The number of the next new source. -/
  nextSource : Nat := 0
  /-- The calls of extensions, first call first. -/
  calls : List Call := []

/-- A computation that builds; what it changed stays changed when it fails. -/
abbrev Building (α : Type) := ExceptT BuildError (StateM Site) α

/-- What building looks up. -/
structure Surroundings where
  /-- The registry that every new node goes through. -/
  shared : Registry
  /-- The nodes that references name. -/
  nodes : Entries Node

/-- A new source. -/
def newSource : Building Nat := do
  let site ← get
  set { site with nextSource := site.nextSource + 1 }
  return site.nextSource

/-- Records a call of an extension. -/
def record (c : Call) : Building Unit :=
  modify fun site => { site with calls := site.calls ++ [c] }

/-- How nested steps are attached. -/
abbrev Attach := List StepPlan → Node → Building Node

/-- The answer of an extension to a call is attached to the node of the call. -/
def Attach.answer (attach : Attach) (e : Extension) (c : Call) : Building Node :=
  attach (e.steps c.node c.primitive c.info) c.node

/-- A call of an extension is recorded and then answered. -/
def Building.answered (answer : Extension → Call → Building Node) (e : Extension) (c : Call) :
    Building Node := do
  record c
  answer e c

/-- Passes a node through a registry, attaching the answers of its extensions. -/
def passThrough (attach : Attach) (r : Registry) (n : Node) : Building Node :=
  r.apply (Building.answered attach.answer) n

/-- The refusal of an operation in whose steps a text is not a pattern. -/
def refuseBadPattern : BuildError → BuildError
  | .badPattern _ => .refused (.invalidArguments "pattern" "bad pattern")
  | e => e

/-- Invokes an operation of a node and attaches the steps it answers. -/
def invokeOn (attach : Attach) (name : String) (arguments : List Value) (n : Node) :
    Building Node :=
  match n.operations.find? name with
  | none => throw (.refused (.unknownOperation name n.schema.kind))
  | some rule =>
    match rule arguments with
    | .error r => throw (.refused r)
    | .ok steps => tryCatch (attach steps n) fun e => throw (refuseBadPattern e)

/-! ## Building, given how a new node comes about -/

/-- How a new node comes about. -/
abbrev Construct := Shape → Label → Building Node

mutual

/-- Builds a blueprint, given how a new node comes about. -/
def Blueprint.buildBy (construct : Construct) (w : Surroundings) (attach : Attach) :
    Blueprint → Building Node
  | .node shape label steps => do
    let shape ← shape.buildBy construct w attach
    let n ← construct shape label
    attachStepsBy construct w attach steps n
  | .reference id steps =>
    match w.nodes.find? id with
    | none => throw (.unknownNode id)
    | some n => attachStepsBy construct w attach steps n

/-- Builds a shape. -/
def ShapePlan.buildBy (construct : Construct) (w : Surroundings) (attach : Attach) :
    ShapePlan → Building Shape
  | .leaf kind test => do return .leaf kind (← test.buildBy construct w attach)
  | .object fields => do
    return .object (Entries.ofList (← buildFieldsBy construct w attach fields))
  | .array element => do return .array (← element.buildBy construct w attach).schema
  | .enumeration values => return .enumeration values
  | .literal value => return .literal value
  | .union candidates => do return .union (← buildAllBy construct w attach candidates)

/-- Builds the schemas of fields, in order. -/
def buildFieldsBy (construct : Construct) (w : Surroundings) (attach : Attach) :
    List (String × Blueprint) → Building (List (String × Schema))
  | [] => return []
  | (name, b) :: rest => do
    let n ← b.buildBy construct w attach
    return (name, n.schema) :: (← buildFieldsBy construct w attach rest)

/-- Builds schemas, in order. -/
def buildAllBy (construct : Construct) (w : Surroundings) (attach : Attach) :
    List Blueprint → Building (List Schema)
  | [] => return []
  | b :: rest => do
    let n ← b.buildBy construct w attach
    return n.schema :: (← buildAllBy construct w attach rest)

/-- Attaches steps to a node, in order. -/
def attachStepsBy (construct : Construct) (w : Surroundings) (attach : Attach) :
    List StepPlan → Node → Building Node
  | [], n => return n
  | step :: rest, n => do
    attachStepsBy construct w attach rest (← step.attachBy construct w attach n)

/-- Attaches a step to a node. -/
def StepPlan.attachBy (construct : Construct) (w : Surroundings) (attach : Attach) :
    StepPlan → Node → Building Node
  | .attach step, n => return n.attach step
  | .defaultFrom g, n => do return n.attach (.default (.source (← newSource) g))
  | .pipe next, n => do return n.attach (.pipe (← next.buildBy construct w attach).schema)
  | .refine test message subject, n => do
    return n.attach (.refine (← test.buildBy construct w attach) message subject)
  | .pattern source, n =>
    match Pattern.read? source with
    | .ok p => return n.attach (Check.pattern p source)
    | .error e => throw (.badPattern e)
  | .operation name rule, n => return n.withOperation name rule
  | .invoke name arguments, n => invokeOn attach name arguments n

/-- Builds a test. -/
def TestPlan.buildBy (construct : Construct) (w : Surroundings) (attach : Attach) :
    TestPlan → Building Test
  | .finished test => return test
  | .accepted b => do return .accepted [(← b.buildBy construct w attach).schema]
  | .not test => do return .not (← test.buildBy construct w attach)

end

/-! ## Building with the shared registry -/

/-- Every new node goes through the shared registry. -/
def Surroundings.construct (w : Surroundings) (attach : Attach) : Construct :=
  fun shape label => passThrough attach w.shared (Node.new shape label)

/-- Builds a blueprint. -/
def Blueprint.build (w : Surroundings) (attach : Attach) (b : Blueprint) : Building Node :=
  b.buildBy (w.construct attach) w attach

/-- Builds a shape. -/
def ShapePlan.build (w : Surroundings) (attach : Attach) (shape : ShapePlan) : Building Shape :=
  shape.buildBy (w.construct attach) w attach

/-- Builds a test. -/
def TestPlan.build (w : Surroundings) (attach : Attach) (test : TestPlan) : Building Test :=
  test.buildBy (w.construct attach) w attach

/-- Attaches steps to a node, in order. -/
def attachSteps (w : Surroundings) (attach : Attach) : Attach :=
  attachStepsBy (w.construct attach) w attach

/-- Attaches steps that an extension or an operation answered, and the answers that
these lead to, down to a depth. -/
def attachNested (w : Surroundings) : Nat → Attach
  | 0 => fun _ _ => throw .tooDeep
  | depth + 1 => attachSteps w (attachNested w depth)

/-- How deeply answers can be nested. -/
def greatestDepth : Nat := 1000

namespace Surroundings

/-- Builds a blueprint. -/
def build (w : Surroundings) (b : Blueprint) : Building Node :=
  b.build w (attachNested w greatestDepth)

/-- Builds a test. -/
def buildTest (w : Surroundings) (test : TestPlan) : Building Test :=
  test.build w (attachNested w greatestDepth)

/-- Attaches steps to a node. -/
def attachTo (w : Surroundings) (steps : List StepPlan) (n : Node) : Building Node :=
  attachSteps w (attachNested w greatestDepth) steps n

/-- Passes a node through a registry. -/
def applyTo (w : Surroundings) (r : Registry) (n : Node) : Building Node :=
  passThrough (attachNested w greatestDepth) r n

end Surroundings

end SchemaEngine
