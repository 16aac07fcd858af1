import SchemaEngine.Failure.Path

/-!
# Failures

A `Failure` says that a value was rejected, why and where.  It is made for the value
itself (`because`) and passed outwards through the enclosing values, each of which puts
its own segment in front of the path (`under`).

The place is kept twice, as a path and as the key that callers look failures up by, and
so is the reason, alone and in the message behind the key.  Whoever changes the path
spells the key and the message anew, from the whole path and the bare reason.
-/

namespace SchemaEngine

/-- Where a failure inside an enclosing value happened. -/
structure Cause where
  /-- The path of the rejected value as text. -/
  key : Option String
deriving DecidableEq

/-- One reason to reject a value. -/
structure Failure where
  /-- The reason, behind the key if there is one. -/
  message : String
  /-- Where the rejected value is, if it lies inside another one. -/
  cause : Option Cause
  /-- A word for programs. -/
  code : String
  /-- What was found, as text. -/
  got : Option String
  /-- What was wanted, as text. -/
  expected : Option String
  /-- Where the rejected value is. -/
  path : Path
  /-- Why the value was rejected, without saying where. -/
  reason : String
deriving DecidableEq

namespace Failure

/-- A failure of the value itself, of no particular code. -/
def because (reason : String) : Failure :=
  { message := reason, cause := none, code := "validation_error", got := none,
    expected := none, path := .root, reason }

/-- A failure with a code. -/
def withCode (code : String) (e : Failure) : Failure := { e with code }

/-- A failure that says what was found. -/
def withGot (got : String) (e : Failure) : Failure := { e with got := some got }

/-- A failure that says what was wanted. -/
def withExpected (expected : String) (e : Failure) : Failure :=
  { e with expected := some expected }

/-- The failure as the enclosing value sees it. -/
def under (s : Segment) (e : Failure) : Failure :=
  let path := e.path.under s
  let key := path.render
  { e with path, message := key ++ ": " ++ e.reason, cause := some ⟨some key⟩ }

/-- The key of the rejected value, if it lies inside another one. -/
def key? (e : Failure) : Option String := e.cause.bind Cause.key

/-- The message, with what was wanted and what was found. -/
def render (e : Failure) : String :=
  e.message
    ++ (match e.expected with
      | some text => " (expected: " ++ text ++ ")"
      | none => "")
    ++ (match e.got with
      | some text => " (got: " ++ text ++ ")"
      | none => "")

end Failure

/-- The failures of one value, at least one, in the order in which they were met. -/
structure Failures where
  /-- The failure that stands for all of them. -/
  first : Failure
  /-- The others. -/
  rest : List Failure
deriving DecidableEq

namespace Failures

/-- One failure alone. -/
def single (e : Failure) : Failures := ⟨e, []⟩

/-- The failures as a list. -/
def toList (es : Failures) : List Failure := es.first :: es.rest

/-- The failures of a list, unless it is empty. -/
def ofList? : List Failure → Option Failures
  | [] => none
  | e :: rest => some ⟨e, rest⟩

/-- What is wrong with an empty list of failures. -/
def emptyMessage : String := "ParseErrors requires at least one error"

/-- How many failures there are. -/
def count (es : Failures) : Nat := es.toList.length

/-- The failures of one value and then those of another. -/
def append (es fs : Failures) : Failures := ⟨es.first, es.rest ++ fs.toList⟩

/-- The failures as the enclosing value sees them. -/
def under (s : Segment) (es : Failures) : Failures :=
  ⟨es.first.under s, es.rest.map (Failure.under s)⟩

/-- The failures at a key. -/
def atKey (key : String) (es : Failures) : List Failure :=
  es.toList.filter fun e => e.key? == some key

/-- The failures with a code. -/
def withCode (code : String) (es : Failures) : List Failure :=
  es.toList.filter fun e => e.code == code

/-- Numbered lines, one for each failure. -/
def lines : Nat → List Failure → String
  | _, [] => ""
  | n, e :: rest => "  " ++ toString n ++ ". " ++ e.render ++ "\n" ++ lines (n + 1) rest

/-- A headline and one numbered line for each failure. -/
def render (es : Failures) : String :=
  "Parsing failed with " ++ toString es.count ++ " error(s):\n" ++ lines 1 es.toList

@[simp] theorem toList_single (e : Failure) : (single e).toList = [e] := rfl

@[simp] theorem toList_append (es fs : Failures) :
    (es.append fs).toList = es.toList ++ fs.toList := rfl

@[simp] theorem toList_under (s : Segment) (es : Failures) :
    (es.under s).toList = es.toList.map (Failure.under s) := rfl

end Failures

end SchemaEngine
