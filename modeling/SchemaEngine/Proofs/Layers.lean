import SchemaEngine.Schema.Parse

/-!
# Steps as layers

`Schema.run` walks the steps of a schema twice and keeps the input of every layer in
between.  The rule that it follows is simpler to say with no walk at all: a step
wraps everything attached before it.  `Step.wrap` turns a parser, which is whatever
lies below a step, into another one, case by case:

* a default and preprocessing change what the layer below receives;
* `optional`, `nullable` and `nullish` turn a failure into a success when the input
  of the layer is absent or null;
* `transform`, `pipe` and `refine` act on an output and leave failures alone.

`layered` wraps a base in a list of steps, and `Schema.layered` the shape of a schema
in the steps of the schema.  The two walks compute exactly this
(`walks_eq_layered`), draws included.
-/

namespace SchemaEngine

/-- What becomes of a failure when `rescued` says that the input may pass as it is. -/
def Outcome.rescue (rescued : Bool) (v : Value) : Outcome → Outcome
  | .ok w => .ok w
  | .error es => if rescued then .ok v else .error es

theorem Outcome.rescue_eq (rescued : Bool) (v : Value) (r : Outcome) :
    r.rescue rescued v = .ok v ∨ r.rescue rescued v = r := by
  cases r with
  | ok w => exact .inr rfl
  | error es =>
    cases rescued with
    | true => exact .inl rfl
    | false => exact .inr rfl

/-- The parser that a step makes of the parser below it. -/
def Step.wrap (o : Options) (below : Value → Drawing Outcome) : Step → Value → Drawing Outcome
  | .default fallback, v => do below (← if v.isUndefined then fallback.resolve else pure v)
  | .preprocess f, v => below (f v)
  | .optional, v => do return (← below v).rescue v.isUndefined .undefined
  | .nullable, v => do return (← below v).rescue v.isNull .null
  | .nullish, v => do return (← below v).rescue v.isNullish v
  | .transform f, v => do
    match ← below v with
    | .ok w => return .ok (f w)
    | .error es => return .error es
  | .pipe next, v => do
    match ← below v with
    | .ok w => next.run w o
    | .error es => return .error es
  | .refine test message subject, v => do
    match ← below v with
    | .ok w =>
      if ← test.holds w then return .ok w
      else
        let shown := match subject with
          | .input => v
          | .output => w
        return .error (.single (.refinement message shown w))
    | .error es => return .error es

/-- The parser that steps make of a base: the first of the list is the outermost. -/
def layered (o : Options) (base : Value → Drawing Outcome) : List Step → Value → Drawing Outcome
  | [], v => base v
  | outermost :: below, v => outermost.wrap o (layered o base below) v

/-- The parser that the steps of a schema make of its shape: the step attached last is
the outermost. -/
def Schema.layered (s : Schema) (v : Value) (o : Options) : Drawing Outcome :=
  SchemaEngine.layered o (fun w => s.shape.base s.label w o) s.steps.reverse v

/-! ## The rule of a step, in two halves -/

/-- What a step does on the way in and on the way out is what it does as a layer. -/
theorem Step.wrap_eq (o : Options) (below : Value → Drawing Outcome) (step : Step) (v : Value) :
    step.wrap o below v =
      (do let inner ← step.innerInput v; step.act v o (← below inner)) := by
  cases step with
  | default fallback =>
    cases v <;> simp [wrap, innerInput, act, Value.isUndefined]
  | preprocess f => simp [wrap, innerInput, act]
  | optional =>
    simp only [wrap, innerInput, pure_bind]
    refine bind_congr fun r => ?_
    cases r <;> cases v <;> rfl
  | nullable =>
    simp only [wrap, innerInput, pure_bind]
    refine bind_congr fun r => ?_
    cases r <;> cases v <;> rfl
  | nullish =>
    simp only [wrap, innerInput, pure_bind]
    refine bind_congr fun r => ?_
    cases r <;> cases v <;> rfl
  | transform f =>
    simp only [wrap, innerInput, pure_bind]
    refine bind_congr fun r => ?_
    cases r <;> rfl
  | pipe next =>
    simp only [wrap, innerInput, pure_bind]
    refine bind_congr fun r => ?_
    cases r <;> simp [act]
  | refine test message subject =>
    simp only [wrap, innerInput, pure_bind]
    refine bind_congr fun r => ?_
    cases subject <;> cases r <;> rfl

theorem layered_append (o : Options) (base : Value → Drawing Outcome) (outer inner : List Step) :
    layered o base (outer ++ inner) = layered o (layered o base inner) outer := by
  induction outer with
  | nil => rfl
  | cons step outer ih => funext v; simp only [List.cons_append, layered, ih]

/-- **Two walks are one wrapping.**  The induction is on the steps in the order of
their attachment, for every base: the first step is taken into the base. -/
theorem walks_eq_layered (o : Options) (base : Value → Drawing Outcome) (steps : List Step)
    (v : Value) :
    (do let (inputs, input) ← layerInputs steps v
        outward steps inputs o (← base input)) = layered o base steps.reverse v := by
  induction steps generalizing base with
  | nil => simp [layerInputs, outward, layered]
  | cons step outer ih =>
    rw [List.reverse_cons, layered_append]
    -- the inward walk reaches the first step last, so it joins the base
    have hwrap : layered o base [step] = step.wrap o base := rfl
    rw [hwrap, ← ih (step.wrap o base)]
    simp only [layerInputs, outward, bind_assoc, pure_bind, Step.wrap_eq]

/-- **Parsing is layered wrapping**: for every schema, input and options, and whatever
was drawn before, the two walks return what the wrapped shape returns and leave the
same draws. -/
theorem Schema.run_eq_layered (s : Schema) (v : Value) (o : Options) (d : Draws) :
    s.run v o d = s.layered v o d := by
  obtain ⟨shape, label, steps⟩ := s
  rw [Schema.run]
  exact congrFun (walks_eq_layered o (fun w => shape.base label w o) steps v) d

end SchemaEngine
