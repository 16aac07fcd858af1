import SchemaEngine.Construction.Blueprint
import SchemaEngine.Json

/-!
# Extensions and registries

An extension is a hook on the construction of nodes: it is shown a node and answers
with the steps to attach to it.  A registry keeps extensions in the order in which
they were registered; once it is sealed it takes no more.

A node goes through the extensions of a registry one after the other (`passage`).  Each
sees the node as the extensions before it left it, and all are told the same kind and the
same information, those of the node as it first came.  What a call (`Call`) does, how it is
recorded and how its steps are attached, is left open.
-/

namespace SchemaEngine

/-- A hook on the construction of nodes. -/
structure Extension where
  /-- What the extension is known by. -/
  tag : Json
  /-- The steps to attach to a node. -/
  steps : Node → Primitive → NodeInfo → List StepPlan

namespace Extension

/-- An extension that attaches the same steps to every node of a given kind and a
given name, if they are given. -/
def onMatch (tag : Json) (kind name : Option String) (steps : List StepPlan) : Extension where
  tag := tag
  steps _ _ info :=
    if kind.all (fun k => k == info.kind) && name.all (fun n => some n == info.name) then steps
    else []

end Extension

/-- What an extension was shown. -/
structure Call where
  /-- What the extension is known by. -/
  tag : Json
  /-- The kind of the node. -/
  primitive : Primitive
  /-- What the extension was told. -/
  info : NodeInfo
  /-- The node. -/
  node : Node

/-- Passes a node through extensions, in order.  `call` shows one of them the node as those
before it left it, tells it the kind and the information of the node that came in, and
attaches its steps. -/
def passage {m : Type → Type} [Monad m] (call : Extension → Call → m Node)
    (es : List Extension) (n : Node) : m Node :=
  es.foldlM (fun present e => call e ⟨e.tag, n.schema.primitive, n.info, present⟩) n

/-- Extensions in the order in which they were registered. -/
structure Registry where
  /-- The extensions, first registered first. -/
  extensions : List Extension := []
  /-- Whether no more are taken. -/
  isSealed : Bool := false

namespace Registry

/-- Registers an extension, unless the registry is sealed. -/
def extend (e : Extension) (r : Registry) : Except Refusal Registry :=
  if r.isSealed then .error .sealed else .ok { r with extensions := r.extensions ++ [e] }

/-- Takes no more extensions from now on. -/
def close (r : Registry) : Registry := { r with isSealed := true }

/-- Passes a node through the extensions of a registry. -/
def apply {m : Type → Type} [Monad m] (call : Extension → Call → m Node) (r : Registry)
    (n : Node) : m Node :=
  passage call r.extensions n

/-- A description of a registry. -/
def describe (r : Registry) : String :=
  "ExtensionRegistry \x7b extensions: " ++ toString r.extensions.length ++ ", sealed: "
    ++ (if r.isSealed then "true" else "false") ++ " \x7d"

end Registry

end SchemaEngine
