import SchemaEngine.Value.Equality

/-!
# Conditions

A condition says of every value whether it holds, and refinements check it.  A
condition on values of one type does not hold of values of the other types.
-/

namespace SchemaEngine

/-- A condition on values. -/
abbrev Condition := Value → Bool

namespace Condition

/-- The value is equal to `a`. -/
def equals (a : Value) : Condition := fun v => v.equals a

/-- The value is of a type. -/
def hasType (type : String) : Condition := fun v => v.typeName == type

/-- The value is a number for which `p` holds. -/
def number (p : Double → Bool) : Condition
  | .number x => p x
  | _ => false

/-- The value is a text for which `p` holds. -/
def text (p : String → Bool) : Condition
  | .text s => p s
  | _ => false

/-- The value is a sequence for which `p` holds. -/
def items (p : List Value → Bool) : Condition
  | .array xs => p xs
  | _ => false

/-- The value is a number not below `x`. -/
def atLeast (x : Double) : Condition := number fun y => x.atMost y

/-- The value is a number not above `x`. -/
def atMost (x : Double) : Condition := number fun y => y.atMost x

/-- The value has a member at a name, and not an undefined one. -/
def hasMember (name : String) : Condition := fun v => !(v.member name).isUndefined

end Condition

end SchemaEngine
