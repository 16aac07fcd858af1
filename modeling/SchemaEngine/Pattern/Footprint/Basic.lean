/-!
# Footprints

A pattern is searched for by an automaton that reads the bytes of a text in UTF-8.  There
are two of them, one for each direction of reading, and neither may take more than
`Footprint.limit` bytes.  A `Footprint` counts states and bytes of an automaton without
building it.

A state takes 32 bytes.  A state that leads on by several ranges of bytes takes 8 more
for each range; a state that forks takes 4 more for each of its ways.
-/

namespace SchemaEngine

/-- The states of an automaton, and the bytes that they take. -/
structure Footprint where
  /-- The number of states. -/
  states : Nat := 0
  /-- The number of bytes. -/
  bytes : Nat := 0
deriving DecidableEq

namespace Footprint

/-- How an automaton reads a text. -/
inductive Direction where
  /-- From its beginning. -/
  | forward
  /-- From its end. -/
  | backward
deriving DecidableEq

/-- What a part of a pattern adds to the footprint of what comes before it. -/
abbrev Growth := Footprint → Footprint

/-- The bytes that an automaton may take. -/
def limit : Nat := 10485760

/-- Whether an automaton takes more bytes than it may. -/
def exceeds (f : Footprint) : Bool := decide (limit < f.bytes)

/-- One more state, with a number of bytes of its own. -/
def add (extra : Nat) (f : Footprint) : Footprint := ⟨f.states + 1, f.bytes + 32 + extra⟩

/-- One more state without bytes of its own. -/
def plain : Growth := add 0

/-- One more state that leads on by `n` ranges of bytes. -/
def reading (n : Nat) : Growth := add (8 * n)

/-- One more state that forks in `n` ways. -/
def forking (n : Nat) : Growth := add (4 * n)

/-- States for `n` bytes one after the other. -/
def bytesInTurn (n : Nat) : Growth := fun f => ⟨f.states + n, f.bytes + 32 * n⟩

/-- A growth `n` times; what exceeds the limit is not built to the end. -/
def copies (once : Growth) : Nat → Growth
  | 0, f => f
  | n + 1, f => if f.exceeds then f else copies once n (once f)

end Footprint

end SchemaEngine
