import SchemaEngine.Schema.Parse
import SchemaEngine.Proofs.Drawing
import SchemaEngine.Proofs.Layers
import SchemaEngine.Proofs.Parts

/-!
# Evaluation

A schema is *steady* when every default in it always yields the same value.  What
such a schema makes of a value does not hang on what was drawn before, so it is a
function of the value and the options alone.  `Schema.eval` is that function, and
`Schema.run_yields` says that parsing returns it.

`eval` is spelled for reasoning.  Steps wrap (`Step.wrapEval`), as in `layered`.  The
parts of an object or of a sequence are evaluated one by one, and `settle` makes one
result of their results: all outputs, or the failures that the options ask for.
-/

namespace SchemaEngine

/-! ## Steady schemas -/

/-- The same value stands in every time. -/
def Fallback.Steady : Fallback → Prop
  | .value _ => True
  | .source _ g => ∀ n, g n = g 0

/-- A default of the step, if it is one, is steady. -/
def Step.Steady : Step → Prop
  | .default fallback => fallback.Steady
  | _ => True

/-- Every default at any depth is steady. -/
def Schema.Steady (s : Schema) : Prop :=
  s.All Schema.parts fun t => ∀ step ∈ t.steps, step.Steady

/-- The value that stands in the first time. -/
def Fallback.first : Fallback → Value
  | .value v => v
  | .source _ g => g 0

theorem Fallback.resolve_yields {fallback : Fallback} (h : fallback.Steady) :
    Drawing.Yields fallback.resolve fallback.first := by
  cases fallback with
  | value v => exact Drawing.yields_pure v
  | source number g => exact fun d => h (d.count number)

/-! ## One result of many -/

section Settle
variable {ι : Type}

/-- One result of the results of parts, each known by a name or an index: all
outputs, or the failures, each as the enclosing value sees it.  When the parse ends
early these are the failures of the first part that fails. -/
def settle (o : Options) (segment : ι → Segment) :
    List (ι × Outcome) → Except Failures (List (ι × Value))
  | [] => .ok []
  | (i, .ok w) :: rest => (settle o segment rest).map ((i, w) :: ·)
  | (i, .error es) :: rest =>
    if o.abortEarly then .error (es.under (segment i))
    else
      match settle o segment rest with
      | .ok _ => .error (es.under (segment i))
      | .error fs => .error ((es.under (segment i)).append fs)

end Settle

/-- The members that are present. -/
def presentMembers (ws : List (String × Value)) : List (String × Value) :=
  ws.filter fun p => !p.2.isUndefined

/-! ## Evaluation -/

mutual

/-- What a schema makes of a value. -/
def Schema.eval (o : Options) : Schema → Value → Outcome
  | .node shape label steps, v => evalSteps o steps (shape.eval o label) v

/-- What a shape makes of a value. -/
def Shape.eval (o : Options) : Shape → Label → Value → Outcome
  | .leaf kind test, label, v =>
    if test.eval v then .ok v else .error (.single (.typeMismatch (.leaf kind test) label v))
  | .object fields, label, v =>
    match v with
    | .object members =>
      (settle o .field (evalFields o fields members)).map fun ws => .object (presentMembers ws)
    | v => .error (.single (.typeMismatch (.object fields) label v))
  | .array element, label, v =>
    match v with
    | .array items =>
      (settle o .index (items.zipIdx.map fun p => (p.2, element.eval o p.1))).map
        fun ws => .array (ws.map Prod.snd)
    | v => .error (.single (.typeMismatch (.array element) label v))
  | .enumeration values, label, v =>
    match v with
    | .text s =>
      if values.contains s then .ok (.text s)
      else .error (.single (.typeMismatch (.enumeration values) label (.text s)))
    | v => .error (.single (.typeMismatch (.enumeration values) label v))
  | .literal value, label, v =>
    if v.equals value then .ok v
    else .error (.single (.typeMismatch (.literal value) label v))
  | .union candidates, label, v =>
    match evalFirst o candidates v with
    | some w => .ok w
    | none => .error (.single (.noMatch candidates label v))

/-- What fields make of the members of an object. -/
def evalFields (o : Options) :
    List (String × Schema) → Entries Value → List (String × Outcome)
  | [], _ => []
  | (name, s) :: rest, members =>
    (name, s.eval o ((members.find? name).getD .undefined)) :: evalFields o rest members

/-- The output of the first schema that accepts a value. -/
def evalFirst (o : Options) : List Schema → Value → Option Value
  | [], _ => none
  | s :: rest, v =>
    match s.eval o v with
    | .ok w => some w
    | .error _ => evalFirst o rest v

/-- What steps make of a base, the first of the list innermost. -/
def evalSteps (o : Options) : List Step → (Value → Outcome) → Value → Outcome
  | [], base, v => base v
  | step :: outer, base, v => evalSteps o outer (step.wrapEval o base) v

/-- What a step makes of the layer below it. -/
def Step.wrapEval (o : Options) : Step → (Value → Outcome) → Value → Outcome
  | .default fallback, below, v => below (if v.isUndefined then fallback.first else v)
  | .preprocess f, below, v => below (f v)
  | .optional, below, v => (below v).rescue v.isUndefined .undefined
  | .nullable, below, v => (below v).rescue v.isNull .null
  | .nullish, below, v => (below v).rescue v.isNullish v
  | .transform f, below, v => (below v).map f
  | .pipe next, below, v =>
    match below v with
    | .ok w => next.eval o w
    | .error es => .error es
  | .refine test message subject, below, v =>
    match below v with
    | .ok w =>
      if test.eval w then .ok w
      else
        let shown := match subject with
          | .input => v
          | .output => w
        .error (.single (.refinement message shown w))
    | .error es => .error es

/-- Whether a value passes a test. -/
def Test.eval : Test → Value → Bool
  | .condition p, v => p v
  | .accepted candidates, v => (evalFirst {} candidates v).isSome
  | .not test, v => !test.eval v

end

/-! ## Parsing returns what evaluation says -/

/-- Parsing with a schema returns what evaluation says. -/
def Schema.Evaluates (s : Schema) : Prop := ∀ v o, Drawing.Yields (s.run v o) (s.eval o v)

section Gathering
variable {α ι : Type} {o : Options}

/-- What was gathered is what `r` says: the outputs `keep` makes of all outputs, or
the failures. -/
def Gathered.Settles (keep : List (ι × Value) → List α) (g : Gathered α) :
    Except Failures (List (ι × Value)) → Prop
  | .ok ws => g.failures = [] ∧ g.outputs = keep ws
  | .error es => g.failures = es.toList

theorem Gathered.Settles.outcome {keep : List (ι × Value) → List α} {g : Gathered α}
    {r : Except Failures (List (ι × Value))} (h : g.Settles keep r)
    (assemble : List α → Value) :
    g.outcome assemble = r.map fun ws => assemble (keep ws) := by
  cases r with
  | ok ws =>
    obtain ⟨hf, ho⟩ := h
    simp [Gathered.outcome, hf, ho, Failures.ofList?, Except.map]
  | error es =>
    have hf : g.failures = es.first :: es.rest := h
    simp [Gathered.outcome, hf, Failures.ofList?, Except.map]

/-- A part that is accepted, before the others. -/
theorem Gathered.Settles.accept {keep : List (ι × Value) → List α} {segment : ι → Segment}
    {g g' : Gathered α} {i : ι} {w : Value} {rest : List (ι × Outcome)}
    (h : g.Settles keep (settle o segment rest)) (hf : g'.failures = g.failures)
    (ho : ∀ ws, g.outputs = keep ws → g'.outputs = keep ((i, w) :: ws)) :
    g'.Settles keep (settle o segment ((i, .ok w) :: rest)) := by
  simp only [settle]
  cases hr : settle o segment rest with
  | ok ws =>
    rw [hr] at h
    exact ⟨hf.trans h.1, ho ws h.2⟩
  | error es =>
    rw [hr] at h
    exact hf.trans h

/-- A part that fails, when the parse ends with it. -/
theorem Gathered.settles_abort {keep : List (ι × Value) → List α} {segment : ι → Segment}
    {i : ι} {es : Failures} {rest : List (ι × Outcome)} (ho : o.abortEarly = true) :
    (Gathered.none.reject (es.under (segment i)) : Gathered α).Settles keep
      (settle o segment ((i, .error es) :: rest)) := by
  simp [settle, ho, Gathered.Settles, Gathered.reject, Gathered.none]

/-- A part that fails, before the others. -/
theorem Gathered.Settles.reject {keep : List (ι × Value) → List α} {segment : ι → Segment}
    {g : Gathered α} {i : ι} {es : Failures} {rest : List (ι × Outcome)}
    (h : g.Settles keep (settle o segment rest)) (ho : ¬ o.abortEarly = true) :
    (g.reject (es.under (segment i))).Settles keep
      (settle o segment ((i, .error es) :: rest)) := by
  simp only [settle, if_neg ho]
  cases hr : settle o segment rest with
  | ok ws =>
    rw [hr] at h
    simp [Gathered.Settles, Gathered.reject, h.1]
  | error fs =>
    rw [hr] at h
    have hg : g.failures = fs.toList := h
    simp [Gathered.Settles, Gathered.reject, hg]

theorem presentMembers_cons (name : String) (w : Value) (ws : List (String × Value)) :
    presentMembers ((name, w) :: ws) =
      if w.isUndefined then presentMembers ws else (name, w) :: presentMembers ws := by
  unfold presentMembers
  cases h : w.isUndefined <;> simp [h]

theorem gatherFields_settles {fields : List (String × Schema)} (members : Entries Value)
    (h : ∀ p ∈ fields, p.2.Evaluates) :
    Drawing.Ensures (gatherFields fields members o)
      (·.Settles presentMembers (settle o .field (evalFields o fields members))) := by
  induction fields with
  | nil => exact Drawing.ensures_pure ⟨rfl, rfl⟩
  | cons field rest ih =>
    obtain ⟨name, s⟩ := field
    have hrest := ih fun p hp => h p (List.mem_cons_of_mem _ hp)
    have hs := h (name, s) (List.mem_cons_self ..) ((members.find? name).getD .undefined) o
    simp only [gatherFields, evalFields]
    refine hs.ensures_bind ?_
    cases s.eval o ((members.find? name).getD .undefined) with
    | ok w =>
      refine Drawing.Ensures.bind hrest fun g hg => Drawing.ensures_pure ?_
      -- an absent output is dropped here by `acceptMember` and there by `presentMembers`
      refine hg.accept ?_ fun ws hws => ?_
      · unfold Gathered.acceptMember; split <;> rfl
      · rw [presentMembers_cons, ← hws]
        unfold Gathered.acceptMember
        split <;> rfl
    | error es =>
      by_cases ho : o.abortEarly = true
      · simp only [if_pos ho]
        exact Drawing.ensures_pure (Gathered.settles_abort ho)
      · simp only [if_neg ho]
        exact Drawing.Ensures.bind hrest fun g hg => Drawing.ensures_pure (hg.reject ho)

theorem gatherItems_settles {parse : Value → Drawing Outcome} {f : Value → Outcome}
    (h : ∀ v, Drawing.Yields (parse v) (f v)) (i : Nat) (items : List Value) :
    Drawing.Ensures (gatherItems parse o i items)
      (·.Settles (List.map Prod.snd)
        (settle o .index ((items.zipIdx i).map fun p => (p.2, f p.1)))) := by
  induction items generalizing i with
  | nil => exact Drawing.ensures_pure ⟨rfl, rfl⟩
  | cons v rest ih =>
    simp only [gatherItems, List.zipIdx_cons, List.map_cons]
    refine (h v).ensures_bind ?_
    cases f v with
    | ok w =>
      refine Drawing.Ensures.bind (ih (i + 1)) fun g hg => Drawing.ensures_pure ?_
      exact hg.accept rfl fun ws hws => by rw [Gathered.accept, hws, List.map_cons]
    | error es =>
      by_cases ho : o.abortEarly = true
      · simp only [if_pos ho]
        exact Drawing.ensures_pure (Gathered.settles_abort ho)
      · simp only [if_neg ho]
        exact Drawing.Ensures.bind (ih (i + 1)) fun g hg => Drawing.ensures_pure (hg.reject ho)

end Gathering

theorem firstAccepting_yields {candidates : List Schema} (h : ∀ t ∈ candidates, t.Evaluates)
    (v : Value) (o : Options) :
    Drawing.Yields (firstAccepting candidates v o) (evalFirst o candidates v) := by
  induction candidates with
  | nil => exact Drawing.yields_pure none
  | cons s rest ih =>
    have hrest := ih fun t ht => h t (List.mem_cons_of_mem _ ht)
    simp only [firstAccepting, evalFirst]
    refine (h s (List.mem_cons_self ..) v o).bind ?_
    cases s.eval o v with
    | ok w => exact Drawing.yields_pure (some w)
    | error es => exact hrest

theorem Test.holds_yields : ∀ {test : Test}, (∀ t ∈ test.parts, t.Evaluates) → ∀ v,
    Drawing.Yields (test.holds v) (test.eval v)
  | .condition p, _, v => Drawing.yields_pure (p v)
  | .accepted candidates, h, v => by
      simp only [Test.holds, Test.eval]
      exact (firstAccepting_yields h v {}).bind (Drawing.yields_pure _)
  | .not test, h, v => by
      simp only [Test.holds, Test.eval]
      have htest : ∀ t ∈ test.parts, t.Evaluates := h
      exact (Test.holds_yields htest v).bind (Drawing.yields_pure _)

theorem Step.wrap_yields {step : Step} {o : Options} {below : Value → Drawing Outcome}
    {f : Value → Outcome} (steady : step.Steady) (parts : ∀ t ∈ step.parts, t.Evaluates)
    (h : ∀ v, Drawing.Yields (below v) (f v)) (v : Value) :
    Drawing.Yields (step.wrap o below v) (step.wrapEval o f v) := by
  cases step with
  | default fallback =>
    simp only [Step.wrap, Step.wrapEval]
    split
    · exact (Fallback.resolve_yields steady).bind (h _)
    · exact h v
  | preprocess f => exact h _
  | optional => exact (h v).bind (Drawing.yields_pure _)
  | nullable => exact (h v).bind (Drawing.yields_pure _)
  | nullish => exact (h v).bind (Drawing.yields_pure _)
  | transform g =>
    simp only [Step.wrap, Step.wrapEval]
    refine (h v).bind ?_
    cases f v <;> exact Drawing.yields_pure _
  | pipe next =>
    simp only [Step.wrap, Step.wrapEval]
    refine (h v).bind ?_
    cases f v with
    | ok w => exact parts next (List.mem_singleton.mpr rfl) w o
    | error es => exact Drawing.yields_pure _
  | refine test message subject =>
    simp only [Step.wrap, Step.wrapEval]
    refine (h v).bind ?_
    cases f v with
    | ok w =>
      refine (Test.holds_yields parts w).bind ?_
      simp only
      split <;> cases subject <;> exact Drawing.yields_pure _
    | error es => exact Drawing.yields_pure _

theorem layered_yields {steps : List Step} {o : Options} {base : Value → Drawing Outcome}
    {f : Value → Outcome} (steady : ∀ step ∈ steps, step.Steady)
    (parts : ∀ step ∈ steps, ∀ t ∈ step.parts, t.Evaluates)
    (h : ∀ v, Drawing.Yields (base v) (f v)) (v : Value) :
    Drawing.Yields (layered o base steps.reverse v) (evalSteps o steps f v) := by
  induction steps generalizing base f with
  | nil => exact h v
  | cons step outer ih =>
    rw [List.reverse_cons, layered_append]
    refine ih (fun s hs => steady s (List.mem_cons_of_mem _ hs))
      (fun s hs => parts s (List.mem_cons_of_mem _ hs)) ?_
    exact Step.wrap_yields (steady step (List.mem_cons_self ..))
      (parts step (List.mem_cons_self ..)) h

theorem Shape.base_yields {shape : Shape} (parts : ∀ t ∈ shape.parts, t.Evaluates)
    (label : Label) (v : Value) (o : Options) :
    Drawing.Yields (shape.base label v o) (shape.eval o label v) := by
  cases shape with
  | leaf kind test =>
    simp only [Shape.base, Shape.eval]
    refine (Test.holds_yields parts v).bind ?_
    cases test.eval v <;> exact Drawing.yields_pure _
  | object fields =>
    cases v with
    | object members =>
      simp only [Shape.base, Shape.eval]
      have hfields : ∀ p ∈ fields, p.2.Evaluates :=
        fun p hp => parts p.2 (List.mem_map_of_mem hp)
      exact (gatherFields_settles members hfields).yields_bind
        fun g hg => hg.outcome Value.object ▸ Drawing.yields_pure _
    | _ => exact Drawing.yields_pure _
  | array element =>
    cases v with
    | array items =>
      simp only [Shape.base, Shape.eval]
      have helement : ∀ w, Drawing.Yields (element.run w o) (element.eval o w) :=
        fun w => parts element (List.mem_singleton.mpr rfl) w o
      exact (gatherItems_settles helement 0 items).yields_bind
        fun g hg => hg.outcome Value.array ▸ Drawing.yields_pure _
    | _ => exact Drawing.yields_pure _
  | enumeration values =>
    cases v with
    | text s =>
      simp only [Shape.base, Shape.eval]
      split <;> exact Drawing.yields_pure _
    | _ => exact Drawing.yields_pure _
  | literal value =>
    simp only [Shape.base, Shape.eval]
    split <;> exact Drawing.yields_pure _
  | union candidates =>
    simp only [Shape.base, Shape.eval]
    refine Drawing.Yields.bind (firstAccepting_yields parts v o) ?_
    simp only [Shape.parts]
    cases evalFirst o candidates v <;> exact Drawing.yields_pure _

/-- **Parsing with a steady schema is evaluation**, whatever was drawn before. -/
theorem Schema.run_yields {s : Schema} (steady : s.Steady) : s.Evaluates := by
  induction s using Schema.induction with
  | node shape label steps hshape hsteps =>
    intro v o
    rw [Schema.run, walks_eq_layered o (fun w => shape.base label w o), Schema.eval]
    refine layered_yields steady.self
      (fun step hs t ht => hsteps step hs t ht (steady.of_step hs ht)) (fun w => ?_) v
    exact Shape.base_yields (fun t ht => hshape t ht (steady.of_shape ht)) label w o

/-! ## What a shape can make of a value -/

/-- A shape takes a value apart, or is a union, or keeps the value as it is when it is of
the type of the shape, whatever the options. -/
theorem Shape.eval_cases (shape : Shape) (label : Label) (v : Value) :
    (∃ fields members, shape = .object fields ∧ v = .object members) ∨
    (∃ element items, shape = .array element ∧ v = .array items) ∨
    (∃ candidates, shape = .union candidates) ∨
    ∃ accepted : Bool, ∀ o, shape.eval o label v =
      if accepted then .ok v else .error (.single (.typeMismatch shape label v)) := by
  cases shape with
  | leaf kind test => exact .inr (.inr (.inr ⟨test.eval v, fun o => by rw [Shape.eval]⟩))
  | object fields =>
    cases v with
    | object members => exact .inl ⟨fields, members, rfl, rfl⟩
    | _ => exact .inr (.inr (.inr ⟨false, fun o => rfl⟩))
  | array element =>
    cases v with
    | array items => exact .inr (.inl ⟨element, items, rfl, rfl⟩)
    | _ => exact .inr (.inr (.inr ⟨false, fun o => rfl⟩))
  | enumeration values =>
    cases v with
    | text s => exact .inr (.inr (.inr ⟨values.contains s, fun o => by rw [Shape.eval]⟩))
    | _ => exact .inr (.inr (.inr ⟨false, fun o => rfl⟩))
  | literal value => exact .inr (.inr (.inr ⟨v.equals value, fun o => by rw [Shape.eval]⟩))
  | union candidates => exact .inr (.inr (.inl ⟨candidates, rfl⟩))

/-! ## Outputs of parts -/

theorem map_eq_ok_iff {α β : Type} {r : Except Failures α} {f : α → β} {y : β} :
    r.map f = .ok y ↔ ∃ x, r = .ok x ∧ f x = y := by
  cases r <;> simp [Except.map]

/-- Parts have outputs together when each has its own. -/
theorem settle_eq_ok_iff {ι : Type} {o : Options} {segment : ι → Segment}
    {parts : List (ι × Outcome)} {ws : List (ι × Value)} :
    settle o segment parts = .ok ws ↔ parts = ws.map fun p => (p.1, .ok p.2) := by
  induction parts generalizing ws with
  | nil => cases ws <;> simp [settle]
  | cons part rest ih =>
    obtain ⟨i, r⟩ := part
    cases r with
    | ok w =>
      simp only [settle, map_eq_ok_iff, ih]
      cases ws with
      | nil => simp
      | cons q qs => grind
    | error es =>
      have hfails : ∀ us, settle o segment ((i, .error es) :: rest) ≠ .ok us := by
        intro us h
        simp only [settle] at h
        split at h
        · cases h
        · split at h <;> cases h
      refine ⟨fun h => absurd h (hfails ws), fun h => ?_⟩
      cases ws with
      | nil => cases h
      | cons q qs => cases (Prod.mk.inj (List.cons.inj h).1).2

theorem accepted_of_settle {ι : Type} {o : Options} {segment : ι → Segment}
    {parts : List (ι × Outcome)} {ws : List (ι × Value)} (h : settle o segment parts = .ok ws)
    {part : ι × Outcome} (hpart : part ∈ parts) : ∃ y, part.2 = .ok y := by
  rw [settle_eq_ok_iff.mp h] at hpart
  obtain ⟨q, -, rfl⟩ := List.mem_map.mp hpart
  exact ⟨q.2, rfl⟩

theorem evalFields_eq_map (o : Options) (fields : List (String × Schema))
    (members : Entries Value) :
    evalFields o fields members =
      fields.map fun p => (p.1, p.2.eval o ((members.find? p.1).getD .undefined)) := by
  induction fields with
  | nil => rfl
  | cons field rest ih => simp only [evalFields, ih, List.map_cons]

/-! ## One more step -/

theorem evalSteps_concat (o : Options) (steps : List Step) (step : Step)
    (base : Value → Outcome) (v : Value) :
    evalSteps o (steps ++ [step]) base v = step.wrapEval o (evalSteps o steps base) v := by
  induction steps generalizing base with
  | nil => rfl
  | cons inner outer ih => exact ih (inner.wrapEval o base)

theorem Schema.eval_attach (step : Step) (s : Schema) (o : Options) (v : Value) :
    (s.attach step).eval o v = step.wrapEval o (s.eval o) v := by
  obtain ⟨shape, label, steps⟩ := s
  have hbelow : Schema.eval o (node shape label steps) = evalSteps o steps (shape.eval o label) :=
    funext fun w => by rw [Schema.eval]
  rw [Schema.attach, Schema.eval, evalSteps_concat, hbelow]

/-! ## Steps that hand their input on -/

/-- The step neither replaces nor converts the input on its way to the layer below. -/
def Step.Passing : Step → Prop
  | .default _ => False
  | .preprocess _ => False
  | _ => True

section Steps
variable {o : Options} {f g : Value → Outcome} {v : Value}

theorem Step.wrapEval_error {step : Step} {es : Failures} (passing : step.Passing)
    (hv : v.isNullish = false) (h : f v = .error es) : step.wrapEval o f v = .error es := by
  obtain ⟨hnull, hundefined⟩ := Bool.or_eq_false_iff.mp hv
  cases step with
  | default fallback => exact passing.elim
  | preprocess c => exact passing.elim
  | pipe next => simp [Step.wrapEval, h]
  | optional => simp [Step.wrapEval, h, Outcome.rescue, hundefined]
  | nullable => simp [Step.wrapEval, h, Outcome.rescue, hnull]
  | nullish => simp [Step.wrapEval, h, Outcome.rescue, hv]
  | transform c => simp [Step.wrapEval, h, Except.map]
  | refine test message subject => simp [Step.wrapEval, h]

/-- A failure of a value that is neither absent nor null passes through all steps. -/
theorem evalSteps_error {steps : List Step} {es : Failures}
    (passing : ∀ step ∈ steps, step.Passing) (hv : v.isNullish = false) (h : f v = .error es) :
    evalSteps o steps f v = .error es := by
  induction steps generalizing f with
  | nil => exact h
  | cons step outer ih =>
    exact ih (fun s hs => passing s (List.mem_cons_of_mem _ hs))
      (Step.wrapEval_error (passing step (List.mem_cons_self ..)) hv h)

theorem Step.wrapEval_congr {step : Step} (passing : step.Passing) (h : f v = g v) :
    step.wrapEval o f v = step.wrapEval o g v := by
  cases step with
  | default fallback => exact passing.elim
  | preprocess c => exact passing.elim
  | _ => simp only [Step.wrapEval, h]

/-- What such steps make of a base on one value hangs on the base on that value. -/
theorem evalSteps_congr {steps : List Step} (passing : ∀ step ∈ steps, step.Passing)
    (h : f v = g v) : evalSteps o steps f v = evalSteps o steps g v := by
  induction steps generalizing f g with
  | nil => exact h
  | cons step outer ih =>
    exact ih (fun s hs => passing s (List.mem_cons_of_mem _ hs))
      (Step.wrapEval_congr (passing step (List.mem_cons_self ..)) h)

end Steps

end SchemaEngine
