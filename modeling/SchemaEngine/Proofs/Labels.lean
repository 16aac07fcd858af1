import SchemaEngine.Proofs.Comparison
import SchemaEngine.Proofs.Evaluation

/-!
# Names and messages

A name stands for a schema in descriptions, and a message replaces what is said of a
rejection.  `Schema.unlabelled` takes all of them away, at every depth: in fields,
elements, candidates, pipes, and in the schemas that tests run.  Two schemas that differ
in nothing else become the same.

A schema is compared with what is left of it (`Schema.run_unlabelled`).  The comparison
goes through every part, since each can hold labels, and leaves open which relation of
failures is kept: it has to hold of any two rejections of one value, whatever they are
labelled with.  With a relation that looks at neither words nor expectations, labels turn
out to be cosmetic; with one that looks at one run only, a property of rejections becomes
one of all failures (`Schema.run_failures`).
-/

namespace SchemaEngine

/-! ## Taking labels away -/

mutual

/-- A schema without the names and messages in it. -/
def Schema.unlabelled : Schema → Schema
  | .node shape _ steps => .node shape.unlabelled {} (unlabelledSteps steps)

/-- A shape without the names and messages in it. -/
def Shape.unlabelled : Shape → Shape
  | .leaf kind test => .leaf kind test.unlabelled
  | .object fields => .object (unlabelledFields fields)
  | .array element => .array element.unlabelled
  | .enumeration values => .enumeration values
  | .literal value => .literal value
  | .union candidates => .union (unlabelledAll candidates)

/-- Fields without the names and messages in their schemas. -/
def unlabelledFields : List (String × Schema) → List (String × Schema)
  | [] => []
  | (name, s) :: rest => (name, s.unlabelled) :: unlabelledFields rest

/-- Schemas without the names and messages in them. -/
def unlabelledAll : List Schema → List Schema
  | [] => []
  | s :: rest => s.unlabelled :: unlabelledAll rest

/-- Steps without the names and messages in them. -/
def unlabelledSteps : List Step → List Step
  | [] => []
  | step :: rest => step.unlabelled :: unlabelledSteps rest

/-- A step without the names and messages in it; whose text a message is computed from
does not matter any more. -/
def Step.unlabelled : Step → Step
  | .pipe next => .pipe next.unlabelled
  | .refine test _ _ => .refine test.unlabelled none .input
  | step => step

/-- A test without the names and messages in the schemas that it runs. -/
def Test.unlabelled : Test → Test
  | .condition p => .condition p
  | .accepted candidates => .accepted (unlabelledAll candidates)
  | .not test => .not test.unlabelled

end

theorem unlabelledFields_eq_map (fields : List (String × Schema)) :
    unlabelledFields fields = fields.map fun p => (p.1, p.2.unlabelled) := by
  induction fields with
  | nil => rfl
  | cons field rest ih => simp only [unlabelledFields, ih, List.map_cons]

theorem unlabelledSteps_eq_map (steps : List Step) :
    unlabelledSteps steps = steps.map Step.unlabelled := by
  induction steps with
  | nil => rfl
  | cons step rest ih => simp only [unlabelledSteps, ih, List.map_cons]

/-! ## A schema and what is left of it -/

open Drawing (Related related_pure)

/-- The relation holds of any two rejections of one value, whatever the labels. -/
structure Failure.Unworded (R : Failure → Failure → Prop) : Prop extends Failure.Lasting R where
  /-- It holds of values of the wrong type. -/
  mismatch : ∀ (shape : Shape) label label' v,
    R (.typeMismatch shape label v) (.typeMismatch shape.unlabelled label' v)
  /-- It holds of values that no candidate accepts. -/
  noMatch : ∀ candidates label label' v,
    R (.noMatch candidates label v) (.noMatch (unlabelledAll candidates) label' v)

/-- Parsing with a schema and with what is left of it agree. -/
def Schema.Unmoved (R : Failure → Failure → Prop) (s : Schema) : Prop :=
  ∀ v o, Related (Outcome.Agree R) (s.run v o) (s.unlabelled.run v o)

section Parts
variable {R : Failure → Failure → Prop}

theorem firstAccepting_unlabelled {candidates : List Schema}
    (h : ∀ t ∈ candidates, t.Unmoved R) (v : Value) (o : Options) :
    Related Eq (firstAccepting candidates v o) (firstAccepting (unlabelledAll candidates) v o) := by
  induction candidates with
  | nil => exact related_pure rfl
  | cons s rest ih =>
    have hrest := ih fun t ht => h t (List.mem_cons_of_mem _ ht)
    simp only [unlabelledAll, firstAccepting]
    refine (h s (List.mem_cons_self ..) v o).bind fun r r' hr => ?_
    cases hr with
    | ok w => exact related_pure rfl
    | error _ => exact hrest

theorem Test.holds_unlabelled : ∀ {test : Test}, (∀ t ∈ test.parts, t.Unmoved R) → ∀ v,
    Related Eq (test.holds v) (test.unlabelled.holds v)
  | .condition p, _, v => related_pure rfl
  | .accepted candidates, h, v => by
      simp only [Test.unlabelled, Test.holds]
      refine (firstAccepting_unlabelled h v {}).bind ?_
      rintro r _ rfl
      exact related_pure rfl
  | .not test, h, v => by
      have htest : ∀ t ∈ test.parts, t.Unmoved R := h
      simp only [Test.unlabelled, Test.holds]
      refine (Test.holds_unlabelled htest v).bind ?_
      rintro b _ rfl
      exact related_pure rfl

theorem Step.corresponds_unlabelled {step : Step} (h : ∀ t ∈ step.parts, t.Unmoved R)
    (o : Options) : step.Corresponds (· = ·) R o step.unlabelled := by
  cases step with
  | optional => exact .optional
  | nullable => exact .nullable
  | nullish => exact .nullish
  | default fallback => exact .default fallback
  | preprocess f => exact .preprocess f fun v v' hv => congrArg f hv
  | transform f => exact .transform f
  | pipe next => exact .pipe fun w => h next (List.mem_singleton.mpr rfl) w o
  | refine test message subject => exact .refine fun w => Test.holds_unlabelled h w

theorem Shape.base_unlabelled {shape : Shape} (hR : Failure.Unworded R)
    (h : ∀ t ∈ shape.parts, t.Unmoved R) (label : Label) (v : Value) (o : Options) :
    Related (Outcome.Agree R) (shape.base label v o) (shape.unlabelled.base {} v o) := by
  -- a value of the wrong type is rejected with and without labels
  have hmismatch : ∀ w, Related (Outcome.Agree R)
      (pure (.error (.single (.typeMismatch shape label w))))
      (pure (.error (.single (.typeMismatch shape.unlabelled {} w)))) :=
    fun w => related_pure (Outcome.agree_single (hR.mismatch shape label {} w))
  cases shape with
  | leaf kind test =>
    simp only [Shape.unlabelled, Shape.base]
    refine (Test.holds_unlabelled h v).bind ?_
    rintro b _ rfl
    cases b with
    | true => exact related_pure (.ok v)
    | false => exact hmismatch v
  | object fields =>
    cases v with
    | object members =>
      simp only [Shape.unlabelled, Shape.base]
      have hfields : Related (Gathered.Agree R) (gatherFields fields members o)
          (gatherFields (unlabelledFields fields) members o) := by
        refine gatherFields_related hR.toLasting ?_
        rw [unlabelledFields_eq_map, List.forall₂_map_right_iff]
        exact List.forall₂_same.mpr fun p hp => ⟨rfl, h p.2 (List.mem_map_of_mem hp) _ o⟩
      exact hfields.bind fun g g' hg => related_pure (hg.outcome Value.object)
    | _ => exact hmismatch _
  | array element =>
    cases v with
    | array items =>
      simp only [Shape.unlabelled, Shape.base]
      have helement := h element (List.mem_singleton.mpr rfl)
      have hitems : Related (Gathered.Agree R) (gatherItems (fun w => element.run w o) o 0 items)
          (gatherItems (fun w => element.unlabelled.run w o) o 0 items) :=
        gatherItems_related hR.toLasting (List.forall₂_same.mpr fun w _ => helement w o) 0
      exact hitems.bind fun g g' hg => related_pure (hg.outcome Value.array)
    | _ => exact hmismatch _
  | enumeration values =>
    cases v with
    | text s =>
      simp only [Shape.unlabelled, Shape.base]
      split
      · exact related_pure (.ok _)
      · exact hmismatch _
    | _ => exact hmismatch _
  | literal value =>
    simp only [Shape.unlabelled, Shape.base]
    split
    · exact related_pure (.ok v)
    · exact hmismatch v
  | union candidates =>
    simp only [Shape.unlabelled, Shape.base]
    refine (firstAccepting_unlabelled h v o).bind ?_
    rintro r _ rfl
    cases r with
    | some w => exact related_pure (.ok w)
    | none => exact related_pure (Outcome.agree_single (hR.noMatch candidates label {} v))

end Parts

/-- **A schema and what is left of it without labels agree**, up to any relation of
failures that holds of rejections of one value. -/
theorem Schema.run_unlabelled {R : Failure → Failure → Prop} (hR : Failure.Unworded R)
    (s : Schema) : s.Unmoved R := by
  induction s using Schema.induction with
  | node shape label steps hshape hsteps =>
    intro v o
    rw [Schema.unlabelled, unlabelledSteps_eq_map]
    refine run_related (V := (· = ·)) indistinct_eq hR.toLasting ?_ ?_ rfl
    · rw [List.forall₂_map_right_iff]
      exact List.forall₂_same.mpr fun step hs => Step.corresponds_unlabelled (hsteps step hs) o
    · rintro w _ rfl
      exact Shape.base_unlabelled hR hshape label w o

/-! ## Labels are cosmetic -/

/-- The failures are at one place, under one code and of one finding; they can differ in the
message, in the reason and in what was wanted. -/
def Failure.SameButWords (e f : Failure) : Prop :=
  e.path = f.path ∧ e.key? = f.key? ∧ e.code = f.code ∧ e.got = f.got

theorem Failure.SameButWords.symm {e f : Failure} (h : e.SameButWords f) : f.SameButWords e := by
  obtain ⟨hpath, hkey, hcode, hgot⟩ := h
  exact ⟨hpath.symm, hkey.symm, hcode.symm, hgot.symm⟩

theorem Failure.SameButWords.trans {e f g : Failure} (h : e.SameButWords f)
    (h' : f.SameButWords g) : e.SameButWords g := by
  obtain ⟨hpath, hkey, hcode, hgot⟩ := h
  obtain ⟨hpath', hkey', hcode', hgot'⟩ := h'
  exact ⟨hpath.trans hpath', hkey.trans hkey', hcode.trans hcode', hgot.trans hgot'⟩

theorem Failure.unworded_sameButWords : Unworded SameButWords where
  under s := by
    rintro ⟨hpath, -, hcode, hgot⟩
    have hunder : (under s _).path = (under s _).path := congrArg (Path.under s) hpath
    exact ⟨hunder, congrArg (fun p : Path => some p.render) hunder, hcode, hgot⟩
  refinement m m' x x' w := ⟨rfl, rfl, rfl, rfl⟩
  mismatch shape label label' v := by
    have hcode : (shape.mismatch v).1 = (shape.unlabelled.mismatch v).1 := by
      cases shape <;> rfl
    exact ⟨rfl, rfl, hcode, rfl⟩
  noMatch candidates label label' v := ⟨rfl, rfl, rfl, rfl⟩

/-- **Names and messages are cosmetic.**  Two schemas that differ in nothing else, at
whatever depth, make the same output of a value, or reject it with as many failures: one
by one at the same place, under the same code and of the same finding.  They draw the
same values from the sources of defaults on the way; where those always yield the same,
it does not matter either what was drawn before. -/
theorem Schema.labels_cosmetic {s t : Schema} (h : s.unlabelled = t.unlabelled) (v : Value)
    (o : Options) :
    Related (Outcome.Agree Failure.SameButWords) (s.safeParse o v) (t.safeParse o v) ∧
    (t.Steady → ∀ d d',
      Outcome.Agree Failure.SameButWords (s.safeParse o v d).1 (t.safeParse o v d').1) := by
  have hs : Related _ (s.run v o) (s.unlabelled.run v o) :=
    s.run_unlabelled Failure.unworded_sameButWords v o
  have ht : Related _ (t.run v o) (t.unlabelled.run v o) :=
    t.run_unlabelled Failure.unworded_sameButWords v o
  rw [← h] at ht
  have hboth : Related (Outcome.Agree Failure.SameButWords) (s.run v o) (t.run v o) :=
    Outcome.Agree.related_of_common (fun _ _ h => h.symm) (fun _ _ _ h h' => h.trans h') hs ht
  exact ⟨hboth, fun steady => hboth.of_yields (run_yields steady v o)⟩

/-- A field with a name and a refinement with a message of its own, against the same without
words; the value is of the right type and fails the refinement. -/
theorem Schema.labels_cosmetic_of_refined :
    let p : Condition := Condition.equals .null
    let s := object [("size", refineWith p (.fixed "too small")
      (leaf .number { name := some "width" }))] { message := some (.fixed "not a box") }
    let t := object [("size", refine p (leaf .number {}))] {}
    let v := Value.object [("size", .number (.zero false))]
    s.unlabelled = t.unlabelled ∧ ∃ es fs, (s.safeParse {} v []).1 = .error es ∧
      (t.safeParse {} v []).1 = .error fs ∧
      List.Forall₂ Failure.SameButWords es.toList fs.toList := by
  intro p s t v
  refine ⟨rfl, _, _, rfl, rfl, ?_⟩
  have hagree := ((labels_cosmetic (s := s) (t := t) rfl v {}).1 []).1
  cases hagree with
  | error h => exact h

/-! ## A property of all failures -/

/-- A property of failures that passes to the enclosing value and holds of every rejection
holds of all failures of every parse. -/
theorem Schema.run_failures {P : Failure → Prop} (under : ∀ e s, P e → P (e.under s))
    (mismatch : ∀ shape label v, P (.typeMismatch shape label v))
    (noMatch : ∀ candidates label v, P (.noMatch candidates label v))
    (refinement : ∀ m x w, P (.refinement m x w)) {s : Schema} {v : Value} {o : Options}
    {d : Draws} {es : Failures} (h : (s.run v o d).1 = .error es) : ∀ e ∈ es.toList, P e := by
  have hR : Failure.Unworded fun e _ => P e :=
    { under := fun s he => under _ s he
      refinement := fun m _ x _ w => refinement m x w
      mismatch := fun shape label _ v => mismatch shape label v
      noMatch := fun candidates label _ v => noMatch candidates label v }
  have hagree := (s.run_unlabelled hR v o d).1
  rw [h] at hagree
  generalize (s.unlabelled.run v o d).1 = r' at hagree
  cases hagree with
  | error hes =>
    have hboth := hes.imp (S := fun e f => P e ∧ True) fun e f he => ⟨he, trivial⟩
    exact ((List.forall₂_and_left es.toList _).mp hboth).1

end SchemaEngine
