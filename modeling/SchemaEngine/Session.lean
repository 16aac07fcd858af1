import SchemaEngine.Construction.Build
import SchemaEngine.Schema.Parse

/-!
# Sessions

A session keeps nodes under names, one registry of its own and one that is shared by
all construction, and the state of the sources of defaults.  `Session.step` carries
out one command and answers it; `Session.run` carries out a list of commands.  A
command that fails leaves the nodes as they were.
-/

namespace SchemaEngine

/-- What a parse is to return. -/
inductive Mode where
  /-- The output, or all failures. -/
  | all
  /-- The output, or the first failure. -/
  | first
  /-- Whether the value is of the kind of the schema. -/
  | kindOnly
deriving DecidableEq

/-- What a parse returned. -/
inductive Verdict where
  /-- The output, or all failures. -/
  | all (r : Outcome)
  /-- The output, or the first failure. -/
  | first (r : Except Failure Value)
  /-- Whether the value is of the kind of the schema. -/
  | kindOnly (b : Bool)

/-- Parses a value as asked. -/
def Mode.parse (mode : Mode) (s : Schema) (o : Options) (v : Value) : Drawing Verdict := do
  match mode with
  | .all => return .all (← s.safeParse o v)
  | .first => return .first (← s.parse o v)
  | .kindOnly => return .kindOnly (← s.accepts v)

/-- What can be asked of a session. -/
inductive Command where
  /-- Builds a node and keeps it. -/
  | build (id : String) (b : Blueprint)
  /-- Attaches steps to a node and keeps the result. -/
  | derive (id origin : String) (steps : List StepPlan)
  /-- Passes a node through the registry of the session and keeps the result. -/
  | apply (id origin : String)
  /-- Parses a value with a node. -/
  | parse (id : String) (mode : Mode) (o : Options) (v : Value)
  /-- Describes a node. -/
  | describe (id : String)
  /-- Registers an extension of the session. -/
  | extend (e : Extension)
  /-- Seals the registry of the session. -/
  | close
  /-- Describes the registry of the session. -/
  | registry
  /-- Registers a shared extension. -/
  | extendShared (e : Extension)
  /-- Seals the shared registry. -/
  | closeShared

/-- What a session answers. -/
inductive Answer where
  /-- The node that was built and kept. -/
  | built (n : Node)
  /-- Why no node was built. -/
  | notBuilt (e : BuildError)
  /-- What a parse returned. -/
  | parsed (v : Verdict)
  /-- The node to be described. -/
  | node (n : Node)
  /-- The number of extensions after one was registered. -/
  | extended (count : Nat)
  /-- A shared extension was registered. -/
  | extendedShared
  /-- A registry was sealed. -/
  | closed
  /-- The registry to be described. -/
  | registry (r : Registry)
  /-- Why a command was refused. -/
  | refused (r : Refusal)
  /-- No node is kept under the name. -/
  | unknown (id : String)

/-- An answer, and the calls of extensions that led to it. -/
structure Reply where
  /-- The answer. -/
  answer : Answer
  /-- The calls of extensions, first call first. -/
  calls : List Call := []

/-- What a session keeps. -/
structure Session where
  /-- The nodes by name. -/
  nodes : Entries Node := []
  /-- The registry of the session. -/
  registry : Registry := {}
  /-- The registry that every new node goes through. -/
  shared : Registry := {}
  /-- The number of the next new source. -/
  nextSource : Nat := 0
  /-- How many values each source has yielded. -/
  draws : Draws := []

namespace Session

/-- What building in a session looks up. -/
def surroundings (s : Session) : Surroundings := ⟨s.shared, s.nodes⟩

/-- Builds in a session, and says which calls of extensions that took. -/
def building {α : Type} (s : Session) (b : Building α) :
    Except BuildError α × List Call × Session :=
  let (result, site) := b.run { nextSource := s.nextSource }
  (result, site.calls, { s with nextSource := site.nextSource })

/-- Builds a node and keeps it under a name. -/
def keep (s : Session) (id : String) (b : Building Node) : Session × Reply :=
  match s.building b with
  | (.ok n, calls, s) => ({ s with nodes := s.nodes.put id n }, ⟨.built n, calls⟩)
  | (.error e, calls, s) => (s, ⟨.notBuilt e, calls⟩)

/-- Does something with the node of a name. -/
def withNode (s : Session) (id : String) (act : Node → Session × Reply) : Session × Reply :=
  match s.nodes.find? id with
  | some n => act n
  | none => (s, { answer := .unknown id })

/-- Carries out a command. -/
def step (s : Session) : Command → Session × Reply
  | .build id b => s.keep id (s.surroundings.build b)
  | .derive id origin steps =>
    s.withNode origin fun n => s.keep id (s.surroundings.attachTo steps n)
  | .apply id origin =>
    s.withNode origin fun n => s.keep id (s.surroundings.applyTo s.registry n)
  | .parse id mode o v =>
    s.withNode id fun n =>
      let (verdict, draws) := (mode.parse n.schema o v).run s.draws
      ({ s with draws }, { answer := .parsed verdict })
  | .describe id => s.withNode id fun n => (s, { answer := .node n })
  | .extend e =>
    match s.registry.extend e with
    | .ok r => ({ s with registry := r }, { answer := .extended r.extensions.length })
    | .error e => (s, { answer := .refused e })
  | .close => ({ s with registry := s.registry.close }, { answer := .closed })
  | .registry => (s, { answer := .registry s.registry })
  | .extendShared e =>
    match s.shared.extend e with
    | .ok r => ({ s with shared := r }, { answer := .extendedShared })
    | .error e => (s, { answer := .refused e })
  | .closeShared => ({ s with shared := s.shared.close }, { answer := .closed })

/-- Carries out commands, first command first. -/
def run (s : Session) : List Command → Session × List Reply
  | [] => (s, [])
  | c :: rest =>
    let (s, reply) := s.step c
    let (s, replies) := s.run rest
    (s, reply :: replies)

/-- Builds a blueprint in a new session and parses values with it, one after the
other. -/
def parseAll (b : Blueprint) (mode : Mode) (o : Options) (vs : List Value) :
    Except BuildError (List Verdict) :=
  let s : Session := {}
  let (result, _, s) := s.building (s.surroundings.build b)
  result.map fun n => ((vs.mapM fun v => mode.parse n.schema o v).run s.draws).1

/-- Builds a blueprint in a new session. -/
def buildAlone (b : Blueprint) : Except BuildError Node :=
  let s : Session := {}
  (s.building (s.surroundings.build b)).1

/-- Builds a primitive in a new session and says which values pass its test. -/
def checkAll (kind : String) (test : TestPlan) (vs : List Value) :
    Except BuildError (Primitive × List Bool) :=
  let s : Session := {}
  let (result, _, s) := s.building (s.surroundings.buildTest test)
  result.map fun test => (⟨kind, test⟩, ((vs.mapM fun v => test.holds v).run s.draws).1)

end Session

end SchemaEngine
