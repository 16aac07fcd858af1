import SchemaEngine.Text.Quoted
import SchemaEngine.Value.Basic

/-!
# Values spelled out

`Value.spelled` writes a value with the name of its kind around it, at every depth: so the
text `1` and the number 1 are spelled differently, and the members of an object stand in the
order in which they came.
-/

namespace SchemaEngine
namespace Value

mutual

/-- A value spelled out. -/
def spelled : Value → String
  | .undefined => "Undefined"
  | .null => "Null"
  | .bool b => "Bool(" ++ toString b ++ ")"
  | .number x => "Number(" ++ x.spelled ++ ")"
  | .text s => "String(" ++ Text.quoted s ++ ")"
  | .date t => "Date(" ++ t.spelled ++ ")"
  | .array items => "Array([" ++ Text.joined ", " (spelledItems items) ++ "])"
  | .object members => "Object(\x7b" ++ Text.joined ", " (spelledMembers members) ++ "\x7d)"

/-- The items of a sequence spelled out. -/
def spelledItems : List Value → List String
  | [] => []
  | v :: rest => v.spelled :: spelledItems rest

/-- The members of an object spelled out, each behind its name. -/
def spelledMembers : List (String × Value) → List String
  | [] => []
  | (name, v) :: rest => (Text.quoted name ++ ": " ++ v.spelled) :: spelledMembers rest

end

end Value
end SchemaEngine
