import SchemaEngine.Proofs.Loosening

/-!
# Laws of steps

Two lists of steps that make the same parser of every parser below them can stand for each
other, whatever is attached before and after (`ActAlike.run`): what comes before is part of
the parser below, and what comes after only sees what the list makes of it.

Rescues in a row turn a failure into the input itself when one of them applies, in whatever
order they come (`layered_rescues`), so lists of rescues act alike when they apply to the
same inputs.  To an input that is neither absent nor null none applies, and no default does;
where nothing converts the input on the way in, such steps can be left out.

A default and preprocessing work on the way in, and a conversion and a pipe on the way out.
All the same, the first two can be expressed by the last two: the input goes through a
schema that accepts everything, is converted as if it were an output, and is then piped
into the schema.  This changes the shape of the node, so it is a law of schemas and not of
lists of steps (`Schema.Interchangeable`).

All these laws are equations of computations: the draws are the same as well, and nothing
is assumed of the defaults in the schemas.
-/

namespace SchemaEngine

/-! ## Lists of steps that can stand for each other -/

/-- The two lists of steps make the same parser of every parser below them. -/
def ActAlike (steps steps' : List Step) : Prop :=
  ∀ o below v, layered o below steps.reverse v = layered o below steps'.reverse v

/-- Steps that act alike do so between any others. -/
theorem ActAlike.run {steps steps' : List Step} (h : ActAlike steps steps') (shape : Shape)
    (label : Label) (before after : List Step) (v : Value) (o : Options) :
    (Schema.node shape label (before ++ steps ++ after)).run v o =
      (Schema.node shape label (before ++ steps' ++ after)).run v o := by
  have hsteps : ∀ below, layered o below steps.reverse = layered o below steps'.reverse :=
    fun below => funext (h o below)
  simp only [Schema.run, walks_eq_layered o (fun w => shape.base label w o),
    List.reverse_append, layered_append, hsteps]

/-! ## Rescues -/

/-- Whether the step lets the input pass when the layer below fails. -/
def Step.rescues : Step → Value → Bool
  | .optional, v => v.isUndefined
  | .nullable, v => v.isNull
  | .nullish, v => v.isNullish
  | _, _ => false

section Rescues
variable {o : Options} {below : Value → Drawing Outcome} {v : Value}

theorem Outcome.rescue_false (r : Outcome) (v : Value) : r.rescue false v = r := by
  cases r <;> rfl

theorem Outcome.rescue_rescue (r : Outcome) (b c : Bool) :
    (r.rescue b v).rescue c v = r.rescue (b || c) v := by
  cases r <;> cases b <;> rfl

theorem Step.Loosening.wrap {step : Step} (h : step.Loosening) :
    step.wrap o below v = do return (← below v).rescue (step.rescues v) v := by
  cases step with
  | optional => cases v <;> rfl
  | nullable => cases v <;> rfl
  | nullish => rfl
  | _ => exact h.elim

/-- Rescues in a row let the input pass when one of them does. -/
theorem layered_rescues {steps : List Step} (h : ∀ step ∈ steps, step.Loosening) :
    layered o below steps v =
      do return (← below v).rescue (steps.any fun step => step.rescues v) v := by
  induction steps with
  | nil => simp [layered, Outcome.rescue_false]
  | cons step rest ih =>
    have hrest := ih fun s hs => h s (List.mem_cons_of_mem _ hs)
    rw [layered, (h step (List.mem_cons_self ..)).wrap, hrest]
    simp only [bind_assoc, pure_bind, Outcome.rescue_rescue, List.any_cons, Bool.or_comm]

/-- Rescues of the same inputs act alike. -/
theorem actAlike_of_rescues {steps steps' : List Step} (h : ∀ step ∈ steps, step.Loosening)
    (h' : ∀ step ∈ steps', step.Loosening)
    (same : ∀ v, (steps.any fun step => step.rescues v) = steps'.any fun step => step.rescues v) :
    ActAlike steps steps' := by
  intro o below v
  rw [layered_rescues fun step hs => h step (List.mem_reverse.mp hs),
    layered_rescues fun step hs => h' step (List.mem_reverse.mp hs), List.any_reverse,
    List.any_reverse, same v]

/-! ## Inputs that are neither absent nor null -/

/-- The step is there for absent values or null. -/
def Step.forNullish : Step → Bool
  | .optional | .nullable | .nullish | .default _ => true
  | _ => false

theorem Step.wrap_forNullish {step : Step} (h : step.forNullish = true)
    (hv : v.isNullish = false) : step.wrap o below v = below v := by
  obtain ⟨hnull, hundefined⟩ := Bool.or_eq_false_iff.mp hv
  cases step with
  | default fallback => simp [Step.wrap, hundefined]
  | optional => simp [Step.wrap, hundefined, Outcome.rescue_false]
  | nullable => simp [Step.wrap, hnull, Outcome.rescue_false]
  | nullish => simp [Step.wrap, hv, Outcome.rescue_false]
  | _ => cases h

/-- Without preprocessing every layer has the input of the node, so what is there for absent
values or null never acts on any other input. -/
theorem layered_filter {steps : List Step} (unprocessed : ∀ f, Step.preprocess f ∉ steps)
    (hv : v.isNullish = false) :
    layered o below (steps.filter fun step => !step.forNullish) v = layered o below steps v := by
  induction steps with
  | nil => rfl
  | cons step rest ih =>
    have hrest := ih fun f hf => unprocessed f (List.mem_cons_of_mem _ hf)
    cases hstep : step.forNullish with
    | true =>
      rw [List.filter_cons_of_neg (by simp [hstep]), layered, step.wrap_forNullish hstep hv, hrest]
    | false =>
      rw [List.filter_cons_of_pos (by simp [hstep]), layered, layered]
      cases step with
      | preprocess f => exact absurd (List.mem_cons_self ..) (unprocessed f)
      | transform f => simp only [Step.wrap, hrest]
      | pipe next => simp only [Step.wrap, hrest]
      | refine test message subject => simp only [Step.wrap, hrest]
      | _ => cases hstep

end Rescues

/-- **The algebra of the rescues**, in any position.  `optional` and `nullable`, in either
order, are `nullish`; a rescue attached twice is attached once; and when the input is
neither absent nor null and nothing preprocesses it, the rescues and defaults of the node
can be left out. -/
theorem Schema.rescue_algebra (shape : Shape) (label : Label) (o : Options) (v : Value) :
    let parse := fun steps => (node shape label steps).safeParse o v
    (∀ before after,
      parse (before ++ [.optional, .nullable] ++ after) = parse (before ++ [.nullish] ++ after) ∧
      parse (before ++ [.nullable, .optional] ++ after) = parse (before ++ [.nullish] ++ after) ∧
      ∀ step : Step, step.Loosening →
        parse (before ++ [step, step] ++ after) = parse (before ++ [step] ++ after)) ∧
    ∀ steps, (∀ f, Step.preprocess f ∉ steps) → v.isNullish = false →
      parse (steps.filter fun step => !step.forNullish) = parse steps := by
  intro parse
  have hoptional : Step.Loosening .optional := trivial
  have hnullable : Step.Loosening .nullable := trivial
  have hnullish : Step.Loosening .nullish := trivial
  refine ⟨fun before after => ⟨?_, ?_, fun step hstep => ?_⟩, fun steps unprocessed hv => ?_⟩
  · refine (actAlike_of_rescues ?_ ?_ fun w => ?_).run shape label before after v o
    · simp [hoptional, hnullable]
    · simp [hnullish]
    · simp [Step.rescues, Value.isNullish, Bool.or_comm]
  · refine (actAlike_of_rescues ?_ ?_ fun w => ?_).run shape label before after v o
    · simp [hoptional, hnullable]
    · simp [hnullish]
    · simp [Step.rescues, Value.isNullish]
  · refine (actAlike_of_rescues ?_ ?_ fun w => ?_).run shape label before after v o
    · simp [hstep]
    · simp [hstep]
    · simp
  · have hreversed : ∀ f, Step.preprocess f ∉ steps.reverse :=
      fun f hf => unprocessed f (List.mem_reverse.mp hf)
    simp only [parse, safeParse, run, walks_eq_layered o (fun w => shape.base label w o)]
    rw [← List.filter_reverse, layered_filter hreversed hv]

/-- Below a default that is null and a conversion, the rescues of a text make one; and a text
goes through the conversion alone. -/
theorem Schema.rescue_algebra_of_defaulted :
    let text := Shape.leaf "string" Primitive.string.test
    let after : List Step := [.default (.value .null), .transform Conversion.wrap]
    let parse := fun steps v => ((node text {} steps).safeParse {} v []).1
    parse ([.optional, .nullable] ++ after) .undefined = .ok (.array [.null]) ∧
    Step.Loosening .nullish ∧
    parse ([.nullish, .nullish] ++ after) .undefined = .ok (.array [.null]) ∧
    (∀ f, Step.preprocess f ∉ Step.nullish :: after) ∧ Value.isNullish (.text "a") = false ∧
    parse (.nullish :: after) (.text "a") = parse [.transform Conversion.wrap] (.text "a") := by
  intro text after parse
  have absent := (rescue_algebra text {} {} .undefined).1 [] after
  have present := (rescue_algebra text {} {} (.text "a")).2 (.nullish :: after)
  have unprocessed : ∀ f, Step.preprocess f ∉ Step.nullish :: after := by simp [after]
  have hnullish : parse ([.nullish] ++ after) .undefined = .ok (.array [.null]) := rfl
  refine ⟨?_, trivial, ?_, unprocessed, rfl, ?_⟩
  · exact (congrArg (fun run => (run []).1) absent.1).trans hnullish
  · exact (congrArg (fun run => (run []).1) (absent.2.2 .nullish trivial)).trans hnullish
  · exact congrArg (fun run => (run []).1) (present unprocessed rfl).symm

/-! ## Schemas that can stand for each other -/

namespace Schema

/-- Whatever steps are attached to both, the two schemas make the same of every value, and
draw the same on the way. -/
def Interchangeable (s t : Schema) : Prop :=
  ∀ more o v, (s.attachAll more).safeParse o v = (t.attachAll more).safeParse o v

theorem run_attach (step : Step) (s : Schema) (v : Value) (o : Options) :
    (s.attach step).run v o = step.wrap o (fun w => s.run w o) v := by
  obtain ⟨shape, label, steps⟩ := s
  simp only [attach, run, walks_eq_layered o (fun w => shape.base label w o),
    List.reverse_append]
  rfl

variable {s t : Schema}

/-- Schemas that make the same of every value go on doing so. -/
theorem interchangeable_of_run (h : ∀ v o, s.run v o = t.run v o) : s.Interchangeable t := by
  intro more
  induction more generalizing s t with
  | nil => exact fun o v => h v o
  | cons step more ih =>
    have hbelow : ∀ o, (fun w => s.run w o) = fun w => t.run w o := fun o => funext (h · o)
    refine ih fun v o => ?_
    rw [run_attach, run_attach, hbelow]

theorem interchangeable_of_actAlike {steps steps' : List Step} (h : ActAlike steps steps')
    (s : Schema) : (s.attachAll steps).Interchangeable (s.attachAll steps') := by
  intro more o v
  obtain ⟨shape, label, before⟩ := s
  simp only [attachAll_node]
  exact h.run shape label before more v o

end Schema

/-! ## Steps of one kind in a row -/

theorem actAlike_pipe_pipe (a b : Schema) : ActAlike [.pipe a, .pipe b] [.pipe (.pipe b a)] := by
  intro o below v
  simp only [List.reverse_cons, List.reverse_nil, List.nil_append, List.cons_append, layered,
    Step.wrap, bind_assoc]
  refine bind_congr fun r => ?_
  cases r with
  | ok w => exact (Schema.run_attach (.pipe b) a w o).symm
  | error es => rfl

theorem actAlike_transform_transform (f g : Conversion) :
    ActAlike [.transform f, .transform g] [.transform (g ∘ f)] := by
  intro o below v
  simp only [List.reverse_cons, List.reverse_nil, List.nil_append, List.cons_append, layered,
    Step.wrap, bind_assoc]
  refine bind_congr fun r => ?_
  cases r <;> rfl

theorem actAlike_default_default {x y : Value} (hy : y ≠ .undefined) :
    ActAlike [.default (.value x), .default (.value y)] [.default (.value y)] := by
  intro o below v
  have hpresent : y.isUndefined = false := by
    cases h : y.isUndefined with
    | false => rfl
    | true => exact absurd (Value.eq_undefined h) hy
  simp only [List.reverse_cons, List.reverse_nil, List.nil_append, List.cons_append, layered,
    Step.wrap]
  cases h : v.isUndefined <;> simp [h, Fallback.resolve, hpresent]

/-! ## Schemas that accept everything -/

theorem Schema.run_any (v : Value) (o : Options) : (leaf .any {}).run v o = pure (.ok v) := by
  simp only [leaf, Primitive.any, run, layerInputs, Shape.base, Test.holds, outward, pure_bind,
    if_true]

theorem actAlike_pipe_any : ActAlike [.pipe (.leaf .any {})] [] := by
  intro o below v
  simp only [List.reverse_cons, List.reverse_nil, List.nil_append, layered, Step.wrap,
    Schema.run_any]
  refine (bind_congr fun r => ?_).trans (bind_pure (below v))
  cases r <;> rfl

/-- Converting what a schema that accepts everything makes of an input converts the input. -/
theorem Schema.run_pipe_transform_any (f : Conversion) (s : Schema) (v : Value) (o : Options) :
    (pipe s (transform f (leaf .any {}))).run v o = s.run (f v) o := by
  simp only [pipe, transform, run_attach, Step.wrap, run_any, pure_bind]

/-- **Modifiers fuse**, and what works on the way in can be expressed by what works on the
way out.  Two pipes are a pipe into a pipe; a pipe into a schema that accepts everything is
none; two conversions are one; preprocessing and a default are conversions of an output that
is the input itself, piped into the schema; and of two defaults the later one counts, if it
is not absent itself. -/
theorem Schema.modifiers_fuse (s a b : Schema) (f g : Conversion) (x y : Value) :
    let any := leaf .any {}
    Interchangeable (pipe b (pipe a s)) (pipe (pipe b a) s) ∧
    Interchangeable (pipe any s) s ∧
    Interchangeable (transform g (transform f s)) (transform (g ∘ f) s) ∧
    Interchangeable (preprocess f s) (pipe s (transform f any)) ∧
    Interchangeable (default x s)
      (pipe s (transform (fun u => if u.isUndefined then x else u) any)) ∧
    (y ≠ .undefined → Interchangeable (default y (default x s)) (default y s)) := by
  intro any
  refine ⟨?_, ?_, ?_, ?_, ?_, fun hy => ?_⟩
  · exact interchangeable_of_actAlike (actAlike_pipe_pipe a b) s
  · exact interchangeable_of_actAlike actAlike_pipe_any s
  · exact interchangeable_of_actAlike (actAlike_transform_transform f g) s
  · refine interchangeable_of_run fun v o => ?_
    rw [run_pipe_transform_any, preprocess, run_attach]
    rfl
  · refine interchangeable_of_run fun v o => ?_
    rw [run_pipe_transform_any, default, run_attach]
    simp only [Step.wrap, Fallback.resolve]
    cases v.isUndefined <;> rfl
  · exact interchangeable_of_actAlike (actAlike_default_default hy) s

/-- An absent number takes the later of two defaults. -/
theorem Schema.modifiers_fuse_of_defaults :
    let y := Value.number (Double.zero false)
    y ≠ .undefined ∧
    ((nullable (default y (default (.text "none") (leaf .number {})))).safeParse {}
      .undefined []).1 = .ok y := by
  intro y
  have hy : y ≠ .undefined := by simp [y]
  refine ⟨hy, ?_⟩
  have hfuse := (modifiers_fuse (leaf .number {}) (leaf .any {}) (leaf .any {}) id id
    (.text "none") y).2.2.2.2.2 hy [.nullable] {} .undefined
  exact congrArg (fun run => (run []).1) hfuse

end SchemaEngine
