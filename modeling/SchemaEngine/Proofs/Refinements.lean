import SchemaEngine.Proofs.StepLaws

/-!
# Chains of refinements

Conversions and refinements that follow each other work on the output alone.  The output
goes through the list, every conversion replaces it (`currentAfter`), and every refinement
tests what is current when it is reached.  If all tests hold (`AllHold`), what is current at
the end is the result.  If not, the first refinement whose test fails decides: it makes the
one failure there is, and whatever is attached after it sees a failure and leaves it alone.

A step of this kind neither reads nor changes the input on its way in, so it acts on what
the schema below it returns for the same input (`Schema.run_attach_refining`).  The laws of a
list follow by attaching its steps one after the other.

A test may run schemas and these may draw, so an output goes on together with the draws.
-/

namespace SchemaEngine

/-- The step converts or tests outputs. -/
def Step.Refining : Step → Prop
  | .transform _ => True
  | .refine _ _ _ => True
  | _ => False

theorem Step.refining_refine (test : Test) (message : Option Message) (subject : Subject) :
    (Step.refine test message subject).Refining := trivial

/-- The value that the message of a refinement is computed from. -/
def Subject.shown (input output : Value) : Subject → Value
  | .input => input
  | .output => output

/-- The output and the draws behind a step that lets the output before it pass. -/
def Step.onward : Step → Value × Draws → Value × Draws
  | .transform f, current => (f current.1, current.2)
  | .refine test _ _, current => (current.1, (test.holds current.1 current.2).2)
  | _, current => current

/-- Whether a step lets the current output pass: a refinement does when its test holds. -/
def Step.lets : Step → Value × Draws → Bool
  | .refine test _ _, current => (test.holds current.1 current.2).1
  | _, _ => true

/-- The output and the draws that are current when everything in a list has let it pass. -/
def currentAfter (steps : List Step) (start : Value × Draws) : Value × Draws :=
  steps.foldl (fun current step => step.onward current) start

/-- The test of every refinement in a list holds of the output that is current there. -/
def AllHold (steps : List Step) (start : Value × Draws) : Prop :=
  ∀ before step after, steps = before ++ step :: after →
    step.lets (currentAfter before start) = true

/-! ## Lists of steps -/

section Lists
variable {step : Step} {steps : List Step} {start : Value × Draws}

theorem allHold_nil : AllHold [] start := by
  intro before step after h
  cases before <;> cases h

theorem allHold_cons :
    AllHold (step :: steps) start ↔
      step.lets start = true ∧ AllHold steps (step.onward start) := by
  constructor
  · intro h
    refine ⟨h [] step steps rfl, fun before inner after hsplit => ?_⟩
    exact h (step :: before) inner after (by rw [hsplit]; rfl)
  · rintro ⟨hstep, hrest⟩ before inner after hsplit
    cases before with
    | nil =>
      obtain ⟨rfl, -⟩ := List.cons.inj hsplit
      exact hstep
    | cons first before =>
      obtain ⟨rfl, htail⟩ := List.cons.inj hsplit
      exact hrest before inner after htail

/-- Where not all tests hold, there is a first one that fails. -/
theorem exists_first_failing (h : ¬ AllHold steps start) :
    ∃ before test message subject after, steps = before ++ .refine test message subject :: after ∧
      AllHold before start ∧
      (Step.refine test message subject).lets (currentAfter before start) = false := by
  induction steps generalizing start with
  | nil => exact absurd allHold_nil h
  | cons step rest ih =>
    cases hstep : step.lets start with
    | true =>
      have hrest : ¬ AllHold rest (step.onward start) :=
        fun hrest => h (allHold_cons.mpr ⟨hstep, hrest⟩)
      obtain ⟨before, test, message, subject, after, rfl, hbefore, hfails⟩ := ih hrest
      exact ⟨step :: before, test, message, subject, after, rfl,
        allHold_cons.mpr ⟨hstep, hbefore⟩, hfails⟩
    | false =>
      cases step with
      | refine test message subject =>
        exact ⟨[], test, message, subject, rest, rfl, allHold_nil, hstep⟩
      | _ => cases hstep

/-- Without conversions the output stays as it is. -/
theorem currentAfter_of_unconverted (refining : ∀ step ∈ steps, step.Refining)
    (unconverted : ∀ f, Step.transform f ∉ steps) : (currentAfter steps start).1 = start.1 := by
  induction steps generalizing start with
  | nil => rfl
  | cons step rest ih =>
    have hrest : (currentAfter rest (step.onward start)).1 = (step.onward start).1 :=
      ih (fun t ht => refining t (List.mem_cons_of_mem _ ht))
        (fun f hf => unconverted f (List.mem_cons_of_mem _ hf))
    refine hrest.trans ?_
    cases step with
    | transform f => exact absurd (List.mem_cons_self ..) (unconverted f)
    | refine test message subject => rfl
    | _ => exact (refining _ (List.mem_cons_self ..)).elim

end Lists

/-! ## One step -/

namespace Schema
variable {s t : Schema} {step : Step} {steps : List Step} {v w : Value} {o : Options}
  {d d' : Draws} {es : Failures}

/-- A conversion or a refinement acts on what the schema below it returns. -/
theorem run_attach_refining (refining : step.Refining) (s : Schema) (v : Value) (o : Options)
    (d : Draws) :
    (s.attach step).run v o d = step.act v o (s.run v o d).1 (s.run v o d).2 := by
  rw [run_attach, Step.wrap_eq]
  cases step with
  | transform f => rfl
  | refine test message subject => rfl
  | _ => exact refining.elim

/-- What becomes of an output that reaches a refinement. -/
theorem run_attach_refine (h : s.run v o d = (.ok w, d')) (test : Test)
    (message : Option Message) (subject : Subject) :
    (s.attach (.refine test message subject)).run v o d =
      (if (test.holds w d').1 then .ok w
        else .error (.single (.refinement message (subject.shown v w) w)),
        (test.holds w d').2) := by
  have hact : (Step.refine test message subject).act v o (.ok w) d' =
      (if (test.holds w d').1 then (pure (.ok w) : Drawing Outcome)
        else pure (.error (.single (.refinement message (subject.shown v w) w))))
        (test.holds w d').2 := by
    cases subject <;> rw [Step.act] <;> rfl
  rw [run_attach_refining (Step.refining_refine test message subject), h, hact]
  split <;> rfl

theorem run_attach_of_error (refining : step.Refining) (h : s.run v o d = (.error es, d')) :
    (s.attach step).run v o d = (.error es, d') := by
  rw [run_attach_refining refining, h]
  cases step with
  | transform f => rfl
  | refine test message subject => rfl
  | _ => exact refining.elim

theorem run_attach_of_lets (refining : step.Refining) (h : s.run v o d = (.ok w, d'))
    (lets : step.lets (w, d') = true) : (s.attach step).run v o d =
      (.ok (step.onward (w, d')).1, (step.onward (w, d')).2) := by
  cases step with
  | transform f => rw [run_attach_refining refining, h]; rfl
  | refine test message subject =>
    have hholds : (test.holds w d').1 = true := lets
    rw [run_attach_refine h, if_pos hholds]
    rfl
  | _ => exact refining.elim

/-- What becomes of an output that reaches a refinement by a condition. -/
theorem run_refine (h : s.run v o d = (.ok w, d')) (p : Condition) (message : Option Message)
    (subject : Subject) :
    (s.attach (.refine (.condition p) message subject)).run v o d =
      (if p w then .ok w else .error (.single (.refinement message (subject.shown v w) w)),
        d') := by
  rw [run_attach_refine h, Test.holds]
  rfl

/-- What a refinement by a condition lets pass satisfies the condition. -/
theorem holds_of_run_refine {p : Condition} {message : Option Message} {subject : Subject}
    (h : (s.attach (.refine (.condition p) message subject)).run v o d = (.ok w, d')) :
    p w = true := by
  cases hs : s.run v o d with
  | mk r d₁ =>
    cases r with
    | error es =>
      rw [run_attach_of_error (Step.refining_refine _ message subject) hs] at h
      cases h
    | ok x =>
      rw [run_refine hs] at h
      cases hp : p x with
      | true =>
        rw [if_pos hp] at h
        obtain rfl : x = w := Except.ok.inj (Prod.mk.inj h).1
        exact hp
      | false =>
        rw [if_neg (Bool.eq_false_iff.mp hp)] at h
        cases h

/-! ## Many steps -/

theorem attachAll_cons (step : Step) (rest : List Step) (s : Schema) :
    s.attachAll (step :: rest) = (s.attach step).attachAll rest := rfl

theorem attachAll_append (before after : List Step) (s : Schema) :
    s.attachAll (before ++ after) = (s.attachAll before).attachAll after :=
  List.foldl_append

/-- Two schemas that do the same on an input go on doing the same on it. -/
theorem run_attachAll_congr (refining : ∀ step ∈ steps, step.Refining)
    (h : s.run v o d = t.run v o d) :
    (s.attachAll steps).run v o d = (t.attachAll steps).run v o d := by
  induction steps generalizing s t with
  | nil => exact h
  | cons step rest ih =>
    refine ih (fun u hu => refining u (List.mem_cons_of_mem _ hu)) ?_
    have hstep := refining step (List.mem_cons_self ..)
    rw [run_attach_refining hstep, run_attach_refining hstep, h]

/-- A failure passes through the whole list. -/
theorem run_attachAll_of_error (refining : ∀ step ∈ steps, step.Refining)
    (h : s.run v o d = (.error es, d')) : (s.attachAll steps).run v o d = (.error es, d') := by
  induction steps generalizing s with
  | nil => exact h
  | cons step rest ih =>
    exact ih (fun u hu => refining u (List.mem_cons_of_mem _ hu))
      (run_attach_of_error (refining step (List.mem_cons_self ..)) h)

/-- An output of which all tests hold passes through the whole list. -/
theorem run_attachAll_of_allHold (refining : ∀ step ∈ steps, step.Refining)
    (h : s.run v o d = (.ok w, d')) (hold : AllHold steps (w, d')) :
    (s.attachAll steps).run v o d =
      (.ok (currentAfter steps (w, d')).1, (currentAfter steps (w, d')).2) := by
  induction steps generalizing s w d' with
  | nil => exact h
  | cons step rest ih =>
    obtain ⟨lets, hrest⟩ := allHold_cons.mp hold
    exact ih (fun u hu => refining u (List.mem_cons_of_mem _ hu))
      (run_attach_of_lets (refining step (List.mem_cons_self ..)) h lets) hrest

/-- The first test that fails ends the matter, whatever comes later. -/
theorem run_attachAll_of_fails {before later : List Step} {test : Test}
    {message : Option Message} {subject : Subject}
    (refining : ∀ step ∈ before, step.Refining) (refining' : ∀ step ∈ later, step.Refining)
    (h : s.run v o d = (.ok w, d')) (hold : AllHold before (w, d'))
    (fails : (Step.refine test message subject).lets (currentAfter before (w, d')) = false) :
    (s.attachAll (before ++ .refine test message subject :: later)).run v o d =
      (let current := currentAfter before (w, d')
       (.error (.single (.refinement message (subject.shown v current.1) current.1)),
        (test.holds current.1 current.2).2)) := by
  have hbefore := run_attachAll_of_allHold refining h hold
  have hfails : ¬ (test.holds (currentAfter before (w, d')).1
      (currentAfter before (w, d')).2).1 = true := Bool.not_eq_true _ ▸ fails
  rw [attachAll_append]
  refine run_attachAll_of_error (s := (s.attachAll before).attach _) refining' ?_
  rw [run_attach_refine hbefore, if_neg hfails]

theorem run_attachAll_eq_ok_iff {x : Value} (refining : ∀ step ∈ steps, step.Refining)
    (h : s.run v o d = (.ok w, d')) :
    ((s.attachAll steps).run v o d).1 = .ok x ↔
      AllHold steps (w, d') ∧ x = (currentAfter steps (w, d')).1 := by
  by_cases hold : AllHold steps (w, d')
  · rw [run_attachAll_of_allHold refining h hold, Except.ok.injEq]
    exact ⟨fun hx => ⟨hold, hx.symm⟩, fun hx => hx.2.symm⟩
  · obtain ⟨before, test, message, subject, after, rfl, hbefore, hfails⟩ :=
      exists_first_failing hold
    obtain ⟨hrefining, -, hrefining'⟩ := List.forall_mem_append.mp refining |>.imp_right
      List.forall_mem_cons.mp
    rw [run_attachAll_of_fails hrefining hrefining' h hbefore hfails]
    exact iff_of_false (fun heq => by cases heq) (fun hx => hold hx.1)

/-- After a refinement, a weaker one that comes when the output is still the same changes
nothing. -/
theorem run_attachAll_weaker {before between after : List Step} {p q : Condition}
    {m m' : Option Message} {a b : Subject}
    (refining : ∀ step ∈ between, step.Refining) (refining' : ∀ step ∈ after, step.Refining)
    (unconverted : ∀ f, Step.transform f ∉ between) (weaker : ∀ x, p x = true → q x = true) :
    (s.attachAll (before ++ .refine (.condition p) m a ::
        (between ++ .refine (.condition q) m' b :: after))).run v o d =
      (s.attachAll (before ++ .refine (.condition p) m a :: (between ++ after))).run v o d := by
  let t := (s.attachAll before).attach (.refine (.condition p) m a)
  let u := t.attachAll between
  have hleft : s.attachAll (before ++ .refine (.condition p) m a ::
      (between ++ .refine (.condition q) m' b :: after)) =
      (u.attach (.refine (.condition q) m' b)).attachAll after := by
    simp only [attachAll_append, attachAll_cons, t, u]
  have hright : s.attachAll (before ++ .refine (.condition p) m a :: (between ++ after)) =
      u.attachAll after := by
    simp only [attachAll_append, attachAll_cons, t, u]
  rw [hleft, hright]
  refine run_attachAll_congr refining' ?_
  cases hu : u.run v o d with
  | mk r d₂ =>
    cases r with
    | error es => exact run_attach_of_error (Step.refining_refine _ m' b) hu
    | ok x =>
      cases ht : t.run v o d with
      | mk r d₁ =>
        cases r with
        | error es => cases (run_attachAll_of_error refining ht).symm.trans hu
        | ok y =>
          -- the output behind the first refinement is still there behind `between`
          have hx := ((run_attachAll_eq_ok_iff refining ht).mp (congrArg Prod.fst hu)).2
          rw [currentAfter_of_unconverted refining unconverted] at hx
          have hq : q x = true := weaker x (hx ▸ holds_of_run_refine ht)
          rw [run_refine hu, if_pos hq]

/-- **The first failing refinement decides.**  Conversions and refinements are attached to a
schema, in any mix.  If the schema fails, so does the whole, in the same way.  If it has an
output, the whole accepts exactly when every refinement holds of what is current when it is
reached, and returns what is current at the end.  Otherwise there is a first refinement that
fails, and it makes exactly one failure, whatever is attached after it; its message is
computed from the input of the schema or from the output that failed, whichever it asks
for.  A refinement never takes anything back: a weaker one, or the same once more, changes
nothing while the output is still the same. -/
theorem first_failing_refinement (s : Schema) (v : Value) (o : Options) (d : Draws)
    {steps : List Step} (refining : ∀ step ∈ steps, step.Refining) :
    let parse := fun more => (s.attachAll more).safeParse o v d
    (∀ es d', s.safeParse o v d = (.error es, d') → parse steps = (.error es, d')) ∧
    (∀ w d', s.safeParse o v d = (.ok w, d') →
      (∀ x, (parse steps).1 = .ok x ↔
        AllHold steps (w, d') ∧ x = (currentAfter steps (w, d')).1) ∧
      (¬ AllHold steps (w, d') → ∃ before test message subject after,
        steps = before ++ .refine test message subject :: after ∧ AllHold before (w, d') ∧
        let current := currentAfter before (w, d')
        let shown := match subject with
          | .input => v
          | .output => current.1
        (test.holds current.1 current.2).1 = false ∧
        ∃ e : Failure, parse steps = (.error (.single e), (test.holds current.1 current.2).2) ∧
          e.code = "refinement" ∧ e.got = some current.1.display ∧ e.path = .root ∧
          e.message = (match message with
            | some m => m.render shown
            | none => "The value \"" ++ shown.display ++ "\" failed a refinement check.") ∧
          ∀ later, (∀ step ∈ later, step.Refining) →
            parse (before ++ .refine test message subject :: later) = parse steps)) ∧
    ∀ before p m a between q m' b after,
      steps = before ++ .refine (.condition p) m a ::
        (between ++ .refine (.condition q) m' b :: after) →
      (∀ f, .transform f ∉ between) → (∀ x, p x = true → q x = true) →
      parse steps = parse (before ++ .refine (.condition p) m a :: (between ++ after)) := by
  intro parse
  refine ⟨fun es d' h => run_attachAll_of_error refining h, fun w d' h => ⟨fun x => ?_, ?_⟩, ?_⟩
  · exact run_attachAll_eq_ok_iff refining h
  · intro hold
    obtain ⟨before, test, message, subject, after, rfl, hbefore, hfails⟩ :=
      exists_first_failing hold
    obtain ⟨hrefining, hrest⟩ := List.forall_mem_append.mp refining
    have hparse := run_attachAll_of_fails hrefining (List.forall_mem_cons.mp hrest).2 h hbefore
      hfails
    refine ⟨before, test, message, subject, after, rfl, hbefore, hfails, _, hparse, rfl, rfl, rfl,
      ?_, fun later hlater => ?_⟩
    · cases message <;> cases subject <;> rfl
    · exact (run_attachAll_of_fails hrefining hlater h hbefore hfails).trans hparse.symm
  · rintro before p m a between q m' b after rfl unconverted weaker
    obtain ⟨-, hrest⟩ := List.forall_mem_append.mp refining
    obtain ⟨hbetween, hafter⟩ := List.forall_mem_append.mp (List.forall_mem_cons.mp hrest).2
    exact run_attachAll_weaker hbetween (List.forall_mem_cons.mp hafter).2 unconverted weaker

/-- A text becomes its length, which is too small; the same bound comes once more. -/
theorem first_failing_refinement_of_length :
    let bound := Condition.atLeast (Double.ofInt 5)
    let steps := [.transform Conversion.byteLength, .refine (.condition bound) none .input,
      .refine (.condition bound) none .output]
    let s := leaf .string {}
    let parse := fun more => (s.attachAll more).safeParse {} (.text "abc") []
    (∀ step ∈ steps, step.Refining) ∧ s.safeParse {} (.text "abc") [] = (.ok (.text "abc"), []) ∧
    ¬ AllHold steps (.text "abc", []) ∧ (∃ e : Failure, (parse steps).1 = .error (.single e) ∧
      e.code = "refinement") ∧
    (∀ f, Step.transform f ∉ ([] : List Step)) ∧ (∀ x, bound x = true → bound x = true) ∧
    parse steps = parse (steps.take 2) := by
  intro bound steps s parse
  have refining : ∀ step ∈ steps, step.Refining := by simp [steps, Step.Refining]
  have hs : s.safeParse {} (.text "abc") [] = (.ok (.text "abc"), []) := rfl
  have hfails : ¬ AllHold steps (.text "abc", []) := by
    intro hold
    have hbound := hold [.transform Conversion.byteLength] _ _ rfl
    revert hbound
    decide +kernel
  obtain ⟨-, hok, hweaker⟩ := first_failing_refinement s (.text "abc") {} [] refining
  obtain ⟨_, _, _, _, _, _, _, _, e, he, hcode, _⟩ := (hok _ _ hs).2 hfails
  refine ⟨refining, hs, hfails, ⟨e, congrArg Prod.fst he, hcode⟩, fun f => List.not_mem_nil,
    fun x hx => hx, ?_⟩
  exact hweaker [.transform Conversion.byteLength] _ _ _ [] _ _ _ [] rfl
    (fun f => List.not_mem_nil) (fun x hx => hx)

end Schema

end SchemaEngine
