import SchemaEngine.Check.Basic
import SchemaEngine.Value.Spelling

/-!
# Checks of sequences

Two bounds on the number of items, and uniqueness of items or of keys computed from
them.

Uniqueness goes by the texts of keys: a key is spelled out once the sign of every zero in it
is dropped (`Value.uniformZeros`), and keys are the same when they are spelled the same.  So a
NaN is the same as a NaN, and objects whose members stand in different orders are not the same.
`duplicates` lists the indices of equal keys in groups, every group in increasing
order and the groups in the order of their first index: it records the indices of every
key, and apart from them the keys in the order in which they came, by which it then takes
the groups out.

A value that is not a sequence has no duplicates.
-/

namespace SchemaEngine

namespace Value

mutual

/-- A value in which every zero, at any depth, is positive. -/
def uniformZeros : Value → Value
  | .number x => if x.isZero then .number (Double.zero false) else .number x
  | .array items => .array (uniformItems items)
  | .object members => .object (uniformMembers members)
  | v => v

/-- Items in which every zero is positive. -/
def uniformItems : List Value → List Value
  | [] => []
  | v :: rest => v.uniformZeros :: uniformItems rest

/-- Members in which every zero is positive. -/
def uniformMembers : List (String × Value) → List (String × Value)
  | [] => []
  | (name, v) :: rest => (name, v.uniformZeros) :: uniformMembers rest

end

end Value

namespace Check

/-- How many items a value has; values that are not sequences have none. -/
def itemCount (v : Value) : Nat :=
  match v with
  | .array items => items.length
  | _ => 0

/-- At least `n` items. -/
def minItems (n : Nat) : Step :=
  onInput (Condition.items fun xs => decide (n ≤ xs.length))
    (.computed fun v => "The array must have at least " ++ toString n ++ " items, got "
      ++ toString (itemCount v) ++ ".")

/-- At most `n` items. -/
def maxItems (n : Nat) : Step :=
  onInput (Condition.items fun xs => decide (xs.length ≤ n))
    (.computed fun v => "The array must have at most " ++ toString n ++ " items, got "
      ++ toString (itemCount v) ++ ".")

/-- At least one item. -/
def nonEmpty : Step :=
  onInput (Condition.items fun xs => !xs.isEmpty) (.fixed "The array must not be empty.")

/-! ## Duplicates -/

/-- The keys seen so far. -/
structure Sightings where
  /-- The indices of a key, if it was seen. -/
  indices : String → Option (List Nat)
  /-- The keys, in the order in which they were first seen. -/
  order : List String

namespace Sightings

/-- No key was seen. -/
def empty : Sightings where
  indices := fun _ => none
  order := []

/-- A key is seen at the index `i`. -/
def record (s : Sightings) (i : Nat) (key : String) : Sightings :=
  let earlier := (s.indices key).getD []
  { indices := fun k => if k = key then some (earlier ++ [i]) else s.indices k
    order := if earlier.isEmpty then s.order ++ [key] else s.order }

/-- Keys are seen at the indices from `i` on. -/
def recordAll (s : Sightings) : Nat → List String → Sightings
  | _, [] => s
  | i, key :: rest => (s.record i key).recordAll (i + 1) rest

/-- The indices of keys, one key after the other; those of a key can be taken only once. -/
def takeAll (indices : String → Option (List Nat)) : List String → List (List Nat)
  | [] => []
  | key :: rest =>
    match indices key with
    | none => takeAll indices rest
    | some is => is :: takeAll (fun k => if k = key then none else indices k) rest

end Sightings

/-- The texts of the keys of items, by which the items are told apart. -/
def keysOf (key : Conversion) (items : List Value) : List String :=
  items.map fun v => (key v).uniformZeros.spelled

/-- The groups of indices of items with equal keys, every group of two or more. -/
def duplicates (key : Conversion) (items : List Value) : List (List Nat) :=
  let s := Sightings.empty.recordAll 0 (keysOf key items)
  (Sightings.takeAll s.indices s.order).filter fun is => decide (1 < is.length)

/-- The groups of indices of a value, which has none if it is not a sequence. -/
def duplicatesOf (key : Conversion) (v : Value) : List (List Nat) :=
  match v with
  | .array items => duplicates key items
  | _ => []

/-- Numbers between brackets. -/
def renderGroup (is : List Nat) : String := "[" ++ Text.joined ", " (is.map toString) ++ "]"

/-- Groups of numbers between brackets. -/
def renderGroups (groups : List (List Nat)) : String :=
  "[" ++ Text.joined ", " (groups.map renderGroup) ++ "]"

/-- Items with distinct keys. -/
def uniqueBy (key : Conversion) : Step :=
  onOutput (fun v => (duplicatesOf key v).isEmpty)
    (.computed fun v => "The array contains duplicate items at indices "
      ++ renderGroups (duplicatesOf key v) ++ ".")

/-- Distinct items. -/
def unique : Step := uniqueBy fun v => v

end Check
end SchemaEngine
