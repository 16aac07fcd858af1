import SchemaEngine.Value.Basic

/-!
# Draws

A default can be a fixed value or the next value of a source.  A source is known by
its number and yields the values `g 0`, `g 1`, `g 2`, … of a function `g`, one for
each time it is drawn from.  The only thing a parse can change is how many values
each source has yielded: `Draws` counts them, and every parse is a function from
counts to counts.
-/

namespace SchemaEngine

/-- How many values each source has yielded, by the number of the source; a source
that is not in the list has yielded none. -/
abbrev Draws := List Nat

namespace Draws

/-- How many values a source has yielded. -/
def count (d : Draws) (source : Nat) : Nat := d.getD source 0

/-- One more value from a source. -/
def advance : Draws → Nat → Draws
  | [], 0 => [1]
  | [], source + 1 => 0 :: advance [] source
  | n :: d, 0 => (n + 1) :: d
  | n :: d, source + 1 => n :: advance d source

@[simp] theorem count_advance (d : Draws) (source other : Nat) :
    (d.advance source).count other = if source = other then d.count other + 1
      else d.count other := by
  induction d generalizing source other with
  | nil =>
    induction source generalizing other with
    | zero => cases other <;> simp [advance, count]
    | succ source ih =>
      cases other with
      | zero => simp [advance, count]
      | succ other =>
        have h := ih other
        simp only [count, List.getD_eq_getElem?_getD] at h ⊢
        simp [advance, h]
  | cons n d ih =>
    cases source with
    | zero => cases other <;> simp [advance, count]
    | succ source =>
      cases other with
      | zero => simp [advance, count]
      | succ other =>
        have h := ih source other
        simp only [count, List.getD_eq_getElem?_getD] at h ⊢
        simp [advance, h]

end Draws

/-- A computation that can draw from sources. -/
abbrev Drawing (α : Type) := StateM Draws α

/-- The next value of a source that yields `g 0`, `g 1`, …. -/
def draw (source : Nat) (g : Nat → Value) : Drawing Value :=
  fun d => (g (d.count source), d.advance source)

/-- What stands in for an absent value. -/
inductive Fallback where
  /-- Always the same value. -/
  | value (v : Value)
  /-- The next value of a source. -/
  | source (number : Nat) (g : Nat → Value)

/-- The value that stands in this time. -/
def Fallback.resolve : Fallback → Drawing Value
  | .value v => pure v
  | .source number g => draw number g

end SchemaEngine
