import SchemaEngine.Text.Quoted

/-!
# Paths

A `Path` says where in a nested value something is: the segments that lead there,
outermost first.  Paths are built from the inside out, each enclosing object or
sequence putting its own segment in front.

The key of a path is its text, the segments with a point between each two, indices
in decimal digits.  The path without segments has no key, which is not the same as
the empty key, that of the field with the empty name.
-/

namespace SchemaEngine

/-- One step into a value. -/
inductive Segment where
  /-- Into the member of an object with this name. -/
  | field (name : String)
  /-- Into the item of a sequence with this index. -/
  | index (n : Nat)
deriving DecidableEq

/-- A segment as text. -/
def Segment.render : Segment → String
  | .field name => name
  | .index n => toString n

/-- Where in a nested value something is. -/
structure Path where
  /-- The segments, outermost first. -/
  segments : List Segment
deriving DecidableEq

namespace Path

/-- The path of the value itself. -/
def root : Path := ⟨[]⟩

/-- A path with one more segment in front. -/
def under (s : Segment) (p : Path) : Path := ⟨s :: p.segments⟩

/-- Whether a path has no segments. -/
def isRoot (p : Path) : Bool := p.segments.isEmpty

/-- The number of segments. -/
def length (p : Path) : Nat := p.segments.length

/-- The innermost segment. -/
def last? (p : Path) : Option Segment := p.segments.getLast?

/-- The segments with a point between each two. -/
def render (p : Path) : String := Text.joined "." (p.segments.map Segment.render)

/-- The text of a path that has segments. -/
def key? (p : Path) : Option String := if p.isRoot then none else some p.render

end Path

end SchemaEngine
