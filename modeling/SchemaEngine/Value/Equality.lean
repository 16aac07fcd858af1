import SchemaEngine.Value.Basic

/-!
# Equality of values

`Value.equals` is the equality that literal schemas and the `equals` primitive go
by: numbers are compared as numbers, so a NaN equals nothing and the two zeros are
equal, and objects are compared as maps, whatever the order of their members.
Values of different types are never equal.
-/

namespace SchemaEngine

namespace Value

mutual

/-- Equality of values: numbers as numbers, objects as maps. -/
def equals : Value → Value → Bool
  | .undefined, .undefined => true
  | .null, .null => true
  | .bool a, .bool b => a == b
  | .number x, .number y => x.equals y
  | .text s, .text t => s == t
  | .date s, .date t => s == t
  | .array xs, .array ys => equalItems xs ys
  | .object ms, .object ns => ms.length == ns.length && includedIn ms ns
  | _, _ => false

/-- Sequences are equal when they have equal items in the same order. -/
def equalItems : List Value → List Value → Bool
  | [], [] => true
  | x :: xs, y :: ys => x.equals y && equalItems xs ys
  | _, _ => false

/-- Every member is a member of the other object, with an equal value. -/
def includedIn : List (String × Value) → List (String × Value) → Bool
  | [], _ => true
  | (name, v) :: rest, ns =>
    (match Entries.find? name ns with
      | some w => v.equals w
      | none => false) && includedIn rest ns

end

end Value

end SchemaEngine
