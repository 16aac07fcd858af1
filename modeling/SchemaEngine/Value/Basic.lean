import SchemaEngine.Number.Layout
import SchemaEngine.Instant
import SchemaEngine.Entries

/-!
# Dynamic values

A `Value` is what a schema receives and what it returns: the values of JSON, and
two more.  `undefined` is the absence of a value, which is not `null`; `date` is a
moment in UTC.  An object keeps its members in the order in which they came.

A value is well formed when every object in it has each name once.  Objects made
with `Value.ofMembers` and `Value.withMember` are.
-/

namespace SchemaEngine

/-- A dynamically typed value. -/
inductive Value where
  /-- No value at all. -/
  | undefined
  /-- The explicit null. -/
  | null
  /-- A truth value. -/
  | bool (b : Bool)
  /-- A number. -/
  | number (x : Double)
  /-- A text. -/
  | text (s : String)
  /-- A moment in UTC. -/
  | date (t : Instant)
  /-- A sequence of values. -/
  | array (items : List Value)
  /-- Values by name, in order. -/
  | object (members : List (String × Value))

namespace Value

instance : Inhabited Value := ⟨.undefined⟩

/-- The name of the type of a value, as errors report it. -/
def typeName : Value → String
  | .undefined => "undefined"
  | .null => "null"
  | .bool _ => "boolean"
  | .number _ => "number"
  | .text _ => "string"
  | .date _ => "date"
  | .array _ => "array"
  | .object _ => "object"

/-- Whether a value is absent. -/
def isUndefined : Value → Bool
  | .undefined => true
  | _ => false

/-- Whether a value is the explicit null. -/
def isNull : Value → Bool
  | .null => true
  | _ => false

theorem eq_undefined {v : Value} (h : v.isUndefined = true) : v = .undefined := by
  cases v with
  | undefined => rfl
  | _ => cases h

theorem eq_null {v : Value} (h : v.isNull = true) : v = .null := by
  cases v with
  | null => rfl
  | _ => cases h

/-- Whether a value is null or absent. -/
def isNullish (v : Value) : Bool := v.isNull || v.isUndefined

/-- The text of a value that is one. -/
def text? : Value → Option String
  | .text s => some s
  | _ => none

/-- The number of a value that is one. -/
def number? : Value → Option Double
  | .number x => some x
  | _ => none

/-- The truth value of a value that is one. -/
def bool? : Value → Option Bool
  | .bool b => some b
  | _ => none

/-- The moment of a value that is one. -/
def date? : Value → Option Instant
  | .date t => some t
  | _ => none

/-- The items of a value that is a sequence. -/
def items? : Value → Option (List Value)
  | .array items => some items
  | _ => none

/-- The members of a value that is an object. -/
def members? : Value → Option (Entries Value)
  | .object members => some members
  | _ => none

/-- The member at a name: absent members, and all members of a value that is not an
object, are undefined. -/
def member (v : Value) (name : String) : Value :=
  match v with
  | .object members => (Entries.find? name members).getD .undefined
  | _ => .undefined

/-- An object from a list of members: a repeated name keeps its first place and
takes its last value. -/
def ofMembers (members : List (String × Value)) : Value := .object (Entries.ofList members)

/-- An object with a member set; other values are unchanged. -/
def withMember (name : String) (x : Value) : Value → Value
  | .object members => .object (Entries.put name x members)
  | v => v

/-- A value inside `n` sequences of one item. -/
def nestItems : Nat → Value → Value
  | 0, v => v
  | n + 1, v => .array [nestItems n v]

/-- A value inside `n` objects of one member. -/
def nestMembers (name : String) : Nat → Value → Value
  | 0, v => v
  | n + 1, v => .object [(name, nestMembers name n v)]

mutual

/-- Every object in the value has each name once. -/
def WellFormed : Value → Prop
  | .array items => WellFormedItems items
  | .object members => Entries.Distinct members ∧ WellFormedMembers members
  | _ => True

/-- Every item is well formed. -/
def WellFormedItems : List Value → Prop
  | [] => True
  | v :: rest => v.WellFormed ∧ WellFormedItems rest

/-- The value of every member is well formed. -/
def WellFormedMembers : List (String × Value) → Prop
  | [] => True
  | (_, v) :: rest => v.WellFormed ∧ WellFormedMembers rest

end

theorem wellFormedItems_iff {items : List Value} :
    WellFormedItems items ↔ ∀ v ∈ items, v.WellFormed := by
  induction items with
  | nil => simp [WellFormedItems]
  | cons v rest ih => simp [WellFormedItems, ih]

theorem wellFormedMembers_iff {members : List (String × Value)} :
    WellFormedMembers members ↔ ∀ p ∈ members, p.2.WellFormed := by
  induction members with
  | nil => simp [WellFormedMembers]
  | cons p rest ih => simp only [WellFormedMembers, ih, List.forall_mem_cons]

end Value

end SchemaEngine
