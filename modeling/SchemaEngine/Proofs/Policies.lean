import SchemaEngine.Proofs.Evaluation

/-!
# Ending early and collecting everything

A parse that ends early and a parse that collects every failure are two runs of the
same schema.  They must not drift apart: the option is read at every object and
sequence, and what is read there could reach a union's choice, the input of a pipe or
a rescue.

It does not.  `firstOnly` keeps the first failure of a result and drops the others,
and every part of evaluation passes it through: `settle` because it appends failures
behind the first, a union because it asks only whether a candidate accepts, a step
because it reads outputs and never a failure.
-/

namespace SchemaEngine

/-- A result with its first failure alone. -/
def firstOnly {α : Type} : Except Failures α → Except Failures α
  | .ok x => .ok x
  | .error es => .error (.single es.first)

@[simp] theorem firstOnly_ok {α : Type} (x : α) : firstOnly (.ok x) = .ok x := rfl

@[simp] theorem firstOnly_error {α : Type} (es : Failures) :
    firstOnly (α := α) (.error es) = .error (.single es.first) := rfl

/-- A parse that ends early returns the first failure of one that collects all. -/
def Schema.Consistent (s : Schema) : Prop :=
  ∀ v, s.eval { abortEarly := true } v = firstOnly (s.eval .collectAll v)

/-! ## Results of parts -/

section Settle
variable {ι α β : Type}

theorem firstOnly_map (f : α → β) (r : Except Failures α) :
    firstOnly (r.map f) = (firstOnly r).map f := by
  cases r <;> rfl

theorem firstOnly_rescue (rescued : Bool) (v : Value) (r : Outcome) :
    firstOnly (r.rescue rescued v) = Outcome.rescue rescued v (firstOnly r) := by
  cases r <;> cases rescued <;> rfl

theorem settle_firstOnly (segment : ι → Segment) (parts : List (ι × Outcome)) :
    settle { abortEarly := true } segment (parts.map fun p => (p.1, firstOnly p.2)) =
      firstOnly (settle .collectAll segment parts) := by
  induction parts with
  | nil => rfl
  | cons part rest ih =>
    obtain ⟨i, r⟩ := part
    cases r with
    | ok w => simp only [List.map_cons, firstOnly_ok, settle, ih, firstOnly_map]
    | error es =>
      -- whatever is collected behind the failures of this part, the first of them stays first
      simp only [List.map_cons, firstOnly_error, settle, Options.collectAll]
      cases settle ⟨false⟩ segment rest <;> rfl

end Settle

/-! ## Fields, candidates and steps -/

theorem evalFields_firstOnly {fields : List (String × Schema)} (members : Entries Value)
    (h : ∀ p ∈ fields, p.2.Consistent) :
    evalFields { abortEarly := true } fields members =
      (evalFields .collectAll fields members).map fun p => (p.1, firstOnly p.2) := by
  induction fields with
  | nil => rfl
  | cons field rest ih =>
    have hrest := ih fun p hp => h p (List.mem_cons_of_mem _ hp)
    have hfield := h field (List.mem_cons_self ..) ((members.find? field.1).getD .undefined)
    simp only [evalFields, List.map_cons, hrest, hfield]

theorem evalFirst_consistent {candidates : List Schema} (h : ∀ t ∈ candidates, t.Consistent)
    (v : Value) :
    evalFirst { abortEarly := true } candidates v = evalFirst .collectAll candidates v := by
  induction candidates with
  | nil => rfl
  | cons s rest ih =>
    have hrest := ih fun t ht => h t (List.mem_cons_of_mem _ ht)
    simp only [evalFirst, h s (List.mem_cons_self ..) v, hrest]
    cases s.eval .collectAll v <;> rfl

theorem Step.wrapEval_firstOnly {step : Step} {f g : Value → Outcome}
    (parts : ∀ t ∈ step.parts, t.Consistent) (h : ∀ v, f v = firstOnly (g v)) (v : Value) :
    step.wrapEval { abortEarly := true } f v = firstOnly (step.wrapEval .collectAll g v) := by
  cases step with
  | default fallback => exact h _
  | preprocess c => exact h _
  | optional => simp only [Step.wrapEval, h v, firstOnly_rescue]
  | nullable => simp only [Step.wrapEval, h v, firstOnly_rescue]
  | nullish => simp only [Step.wrapEval, h v, firstOnly_rescue]
  | transform c => simp only [Step.wrapEval, h v, firstOnly_map]
  | pipe next =>
    simp only [Step.wrapEval, h v]
    cases g v with
    | ok w => exact parts next (List.mem_singleton.mpr rfl) w
    | error es => rfl
  | refine test message subject =>
    simp only [Step.wrapEval, h v]
    cases g v with
    | ok w =>
      simp only [firstOnly_ok]
      split <;> rfl
    | error es => rfl

theorem evalSteps_firstOnly {steps : List Step} {f g : Value → Outcome}
    (parts : ∀ step ∈ steps, ∀ t ∈ step.parts, t.Consistent)
    (h : ∀ v, f v = firstOnly (g v)) (v : Value) :
    evalSteps { abortEarly := true } steps f v = firstOnly (evalSteps .collectAll steps g v) := by
  induction steps generalizing f g with
  | nil => exact h v
  | cons step outer ih =>
    refine ih (fun s hs => parts s (List.mem_cons_of_mem _ hs)) ?_
    exact Step.wrapEval_firstOnly (parts step (List.mem_cons_self ..)) h

/-! ## Shapes and schemas -/

theorem Shape.eval_firstOnly {shape : Shape} (parts : ∀ t ∈ shape.parts, t.Consistent)
    (label : Label) (v : Value) :
    shape.eval { abortEarly := true } label v = firstOnly (shape.eval .collectAll label v) := by
  rcases shape.eval_cases label v with ⟨fields, members, rfl, rfl⟩ | ⟨element, items, rfl, rfl⟩ |
    ⟨candidates, rfl⟩ | ⟨accepted, h⟩
  · have hfields : ∀ p ∈ fields, p.2.Consistent :=
      fun p hp => parts p.2 (List.mem_map_of_mem hp)
    simp only [Shape.eval, evalFields_firstOnly members hfields, settle_firstOnly, firstOnly_map]
  · have helement : ∀ w, element.eval { abortEarly := true } w =
        firstOnly (element.eval .collectAll w) := parts element (List.mem_singleton.mpr rfl)
    have hitems := settle_firstOnly .index
      (items.zipIdx.map fun p => (p.2, element.eval .collectAll p.1))
    rw [List.map_map] at hitems
    simp only [Shape.eval, helement, firstOnly_map, ← hitems]
    rfl
  · have hcandidates : ∀ t ∈ candidates, t.Consistent := parts
    simp only [Shape.eval, evalFirst_consistent hcandidates v]
    cases evalFirst .collectAll candidates v <;> rfl
  · rw [h, h]
    cases accepted <;> rfl

theorem Schema.consistent (s : Schema) : s.Consistent := by
  induction s using Schema.induction with
  | node shape label steps hshape hsteps =>
    intro v
    exact evalSteps_firstOnly hsteps (Shape.eval_firstOnly hshape label) v

/-- Which values are accepted, and with which output, does not hang on the options. -/
theorem Schema.eval_eq_ok_iff (s : Schema) (o o' : Options) {v w : Value} :
    s.eval o v = .ok w ↔ s.eval o' v = .ok w := by
  have hcollect : ∀ o : Options, s.eval o v = .ok w ↔ s.eval .collectAll v = .ok w := by
    rintro ⟨abortEarly⟩
    cases abortEarly with
    | false => exact Iff.rfl
    | true =>
      rw [s.consistent v]
      cases s.eval .collectAll v <;> simp
  exact (hcollect o).trans (hcollect o').symm

/-! ## The two policies -/

/-- **The two policies agree.**  With a steady schema, a parse that ends early and a
parse that collects every failure accept the same values with the same output; and
where they reject a value, the parse that ends early reports exactly one failure, the
first of those collected. -/
theorem Schema.policies_agree {s : Schema} (steady : s.Steady) (v : Value) (d d' : Draws) :
    (∀ w, (s.safeParse { abortEarly := true } v d).1 = .ok w ↔
      (s.safeParse .collectAll v d').1 = .ok w) ∧
    (∀ es, (s.safeParse { abortEarly := true } v d).1 = .error es ↔
      ∃ fs, (s.safeParse .collectAll v d').1 = .error fs ∧ es.toList = [fs.first]) := by
  have hearly : (s.safeParse { abortEarly := true } v d).1 = s.eval { abortEarly := true } v :=
    Schema.run_yields steady v _ d
  have hall : (s.safeParse .collectAll v d').1 = s.eval .collectAll v :=
    Schema.run_yields steady v _ d'
  rw [hearly, hall, s.consistent v]
  cases s.eval .collectAll v with
  | ok x => simp
  | error fs =>
    refine ⟨by simp, fun es => ⟨?_, ?_⟩⟩
    · rintro ⟨⟩
      exact ⟨fs, rfl, rfl⟩
    · rintro ⟨gs, ⟨⟩, hes⟩
      obtain ⟨first, rest⟩ := es
      obtain ⟨rfl, rfl⟩ := List.cons.inj hes
      rfl

/-- Two fields fail, the second in the schema that its output is piped to; ending early
reports the first. -/
theorem Schema.policies_agree_on_two_fields :
    let s := object [("name", leaf .string {}),
      ("size", pipe (leaf .number {}) (leaf .any {}))] {}
    let v := Value.object [("size", .null)]
    ∃ es fs, (s.safeParse { abortEarly := true } v []).1 = .error es ∧
      (s.safeParse .collectAll v []).1 = .error fs ∧ fs.count = 2 ∧ es.toList = [fs.first] := by
  intro s v
  have steady : s.Steady := by
    simp [s, Steady, pipe, object, leaf, attach, Entries.ofList, Entries.put, Shape.parts,
      Test.parts, Step.parts, Step.Steady, Primitive.string, Primitive.number, Primitive.any]
  obtain ⟨fs, hfs, hes⟩ := ((policies_agree steady v [] []).2 _).mp rfl
  exact ⟨_, fs, rfl, hfs, by cases hfs; rfl, hes⟩

end SchemaEngine
