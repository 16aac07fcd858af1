import SchemaEngine.Check.Items
import SchemaEngine.Check.Number
import SchemaEngine.Check.Text
import SchemaEngine.Proofs.Refinements

/-!
# Checks and values of other types

A check is meant for the values of one type (`Check.IsFor`).  An output of another type can
still reach it, since a conversion, a pipe or a rescue before it can change the type.  All
checks but one kind go by a condition that does not hold of other types
(`Condition.Only`), so they reject such an output.  Uniqueness goes by the absence of
duplicates, and a value that is not a sequence has none: it lets the output pass.
-/

namespace SchemaEngine

/-- The condition holds of no value of another type. -/
def Condition.Only (type : String) (p : Condition) : Prop :=
  ∀ v, v.typeName ≠ type → p v = false

theorem Condition.only_text (p : String → Bool) : Only "string" (text p) := by
  intro v hv
  cases v with
  | text s => exact absurd rfl hv
  | _ => rfl

theorem Condition.only_number (p : Double → Bool) : Only "number" (number p) := by
  intro v hv
  cases v with
  | number x => exact absurd rfl hv
  | _ => rfl

theorem Condition.only_items (p : List Value → Bool) : Only "array" (items p) := by
  intro v hv
  cases v with
  | array xs => exact absurd rfl hv
  | _ => rfl

namespace Check

/-- The step is one of the ready-made checks, for the values of a type. -/
inductive IsFor : String → Step → Prop
  | minLength (n : Nat) : IsFor "string" (minLength n)
  | maxLength (n : Nat) : IsFor "string" (maxLength n)
  | length (n : Nat) : IsFor "string" (length n)
  | pattern (p : Pattern) (source : String) : IsFor "string" (pattern p source)
  | email : IsFor "string" email
  | url : IsFor "string" url
  | uuid : IsFor "string" uuid
  | startsWith (t : String) : IsFor "string" (startsWith t)
  | endsWith (t : String) : IsFor "string" (endsWith t)
  | min (x : Double) : IsFor "number" (min x)
  | max (x : Double) : IsFor "number" (max x)
  | int : IsFor "number" int
  | positive : IsFor "number" positive
  | nonNegative : IsFor "number" nonNegative
  | negative : IsFor "number" negative
  | multipleOf (divisor : Double) : IsFor "number" (multipleOf divisor)
  | minItems (n : Nat) : IsFor "array" (minItems n)
  | maxItems (n : Nat) : IsFor "array" (maxItems n)
  | nonEmpty : IsFor "array" nonEmpty
  | unique : IsFor "array" unique
  | uniqueBy (key : Conversion) : IsFor "array" (uniqueBy key)

/-- A check goes by a condition that holds of no value of another type, or it is
uniqueness. -/
theorem cases_of_isFor {type : String} {check : Step} (h : IsFor type check) :
    (∃ p m, Condition.Only type p ∧ check = onInput p m) ∨
      type = "array" ∧ ∃ key, check = uniqueBy key := by
  cases h with
  | unique => exact .inr ⟨rfl, _, rfl⟩
  | uniqueBy key => exact .inr ⟨rfl, key, rfl⟩
  | minItems | maxItems | nonEmpty => exact .inl ⟨_, _, Condition.only_items _, rfl⟩
  | min | max | int | positive | nonNegative | negative | multipleOf =>
    exact .inl ⟨_, _, Condition.only_number _, rfl⟩
  | _ => exact .inl ⟨_, _, Condition.only_text _, rfl⟩

theorem onInput_ne_uniqueBy (p : Condition) (m : Message) (key : Conversion) :
    onInput p m ≠ uniqueBy key := by
  intro h
  cases h

theorem duplicatesOf_eq_nil {v : Value} (h : v.typeName ≠ "array") (key : Conversion) :
    duplicatesOf key v = [] := by
  cases v with
  | array items => exact absurd rfl h
  | _ => rfl

end Check

open Check (IsFor onInput uniqueBy)

theorem Schema.accepts_refine_iff {s : Schema} {v w : Value} {o : Options} {d d' : Draws}
    (reaches : s.safeParse o v d = (.ok w, d')) (p : Condition) (m : Option Message)
    (subject : Subject) :
    (s.attach (.refine (.condition p) m subject)).safeParse o v d = (.ok w, d') ↔ p w = true := by
  rw [safeParse, run_refine reaches]
  cases p w with
  | true => exact iff_of_true rfl rfl
  | false => exact iff_of_false (fun h => by cases h) Bool.false_ne_true

/-- **Checks reject the values of other types, uniqueness apart.**  When an output that is
not of the type of a check reaches it, whatever the node made it from, the check rejects it
with exactly one failure, of the code `refinement`, unless it is uniqueness, which lets it
pass unchanged. -/
theorem Schema.other_types_rejected {type : String} {check : Step} (isFor : IsFor type check)
    {s : Schema} {v w : Value} {o : Options} {d d' : Draws}
    (reaches : s.safeParse o v d = (.ok w, d')) (other : w.typeName ≠ type) :
    ((∃ e : Failure, (s.attach check).safeParse o v d = (.error (.single e), d') ∧
      e.code = "refinement") ↔ ∀ key, check ≠ uniqueBy key) ∧
    ∀ key, check = uniqueBy key → (s.attach check).safeParse o v d = (.ok w, d') := by
  have huniqueness : ∀ key, check = uniqueBy key →
      (s.attach check).safeParse o v d = (.ok w, d') := by
    rintro key rfl
    rcases Check.cases_of_isFor isFor with ⟨p, m, -, h⟩ | ⟨rfl, -⟩
    · exact absurd h.symm (Check.onInput_ne_uniqueBy p m key)
    · refine (accepts_refine_iff reaches _ _ _).mpr ?_
      rw [Check.duplicatesOf_eq_nil other]
      rfl
  refine ⟨⟨?_, fun hcheck => ?_⟩, huniqueness⟩
  · rintro ⟨e, he, -⟩ key hkey
    rw [huniqueness key hkey] at he
    cases he
  · rcases Check.cases_of_isFor isFor with ⟨p, m, only, rfl⟩ | ⟨-, key, rfl⟩
    · refine ⟨.refinement (some m) v w, (run_refine reaches p (some m) .input).trans ?_, rfl⟩
      rw [only w other]
      rfl
    · exact absurd rfl (hcheck key)

/-- A text becomes its length, which a check of texts then rejects. -/
theorem Schema.other_types_rejected_of_length :
    let s := transform Conversion.byteLength (leaf .string {})
    let n := Value.number (Double.ofInt 4)
    s.safeParse {} (.text "abcd") [] = (.ok n, []) ∧ n.typeName ≠ "string" ∧
    ∃ e : Failure, (s.attach (Check.minLength 3)).safeParse {} (.text "abcd") [] =
      (.error (.single e), []) ∧ e.code = "refinement" := by
  intro s n
  have reaches : s.safeParse {} (.text "abcd") [] = (.ok n, []) := rfl
  have other : n.typeName ≠ "string" := by decide
  refine ⟨reaches, other, ?_⟩
  exact (other_types_rejected (.minLength 3) reaches other).1.mpr (Check.onInput_ne_uniqueBy _ _)

/-- Uniqueness lets null pass, which is no sequence. -/
theorem Schema.null_passes_unique :
    let s := leaf .any {}
    IsFor "array" Check.unique ∧ s.safeParse {} .null [] = (.ok .null, []) ∧
    Value.typeName .null ≠ "array" ∧
    (s.attach Check.unique).safeParse {} .null [] = (.ok .null, []) :=
  ⟨.unique, rfl, by decide, rfl⟩

end SchemaEngine
