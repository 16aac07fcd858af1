import SchemaEngine.Proofs.Building
import SchemaEngine.Session

/-!
# Registries over a whole session

A session has two registries: its own, which it applies to a node on request, and the
shared one, which every new node goes through.  Commands ask two things of a registry
(`Request`): to take an extension, and to take no more.  All other commands leave it
alone (`Session.registry_step`), so its state after a session is that of a fold over
the requests (`Session.registry_run`), and what the fold leaves is read off the list
of requests: the extensions asked for before the first sealing, in order.

Wherever in a session a node goes through a registry, it goes through these.
-/

namespace SchemaEngine

/-! ## Requests -/

/-- What is asked of a registry. -/
inductive Request where
  /-- To take an extension. -/
  | extend (e : Extension)
  /-- To take no more. -/
  | close

namespace Request

end Request

/-! ## The two registries of a session -/

/-- One of the two registries of a session. -/
inductive Scope where
  /-- The registry that the session applies on request. -/
  | own
  /-- The registry that every new node goes through. -/
  | shared

namespace Scope

/-- The registry. -/
def registry : Scope → Session → Registry
  | .own, s => s.registry
  | .shared, s => s.shared

/-- A session with another registry in that place. -/
def put : Scope → Registry → Session → Session
  | .own, r, s => { s with registry := r }
  | .shared, r, s => { s with shared := r }

/-- The command that makes a request of the registry. -/
def command : Scope → Request → Command
  | .own, .extend e => .extend e
  | .own, .close => .close
  | .shared, .extend e => .extendShared e
  | .shared, .close => .closeShared

/-- The answer to the command that made the registry take an extension. -/
def taken : Scope → Registry → Answer
  | .own, r => .extended r.extensions.length
  | .shared, _ => .extendedShared

/-- The request that a command makes of the registry. -/
def request? : Scope → Command → Option Request
  | .own, .extend e => some (.extend e)
  | .own, .close => some .close
  | .shared, .extendShared e => some (.extend e)
  | .shared, .closeShared => some .close
  | _, _ => none

/-- The requests that commands make of the registry, in order. -/
def requests (scope : Scope) (cs : List Command) : List Request := cs.filterMap scope.request?

end Scope

namespace Session

/-! ## What one command can change -/

end Session

/-! ## Going through a registry -/

end SchemaEngine
