import SchemaEngine.Proofs.Policies

/-!
# Unions

A union is accepted in two places.  A parse runs the candidates under the options of
the caller, and the kind that goes with the union (`Schema.accepts`) runs them once
more, under options of its own.  The two agree on every value (`Schema.union_agrees`):
whether a candidate accepts, and what it returns, does not hang on the options, so the
first candidate to accept is the same in both.
-/

namespace SchemaEngine

/-- The candidate at the index `i` makes `w` of a value, and every candidate before it
rejects the value; `parse` says what each makes of it. -/
def FirstAccepted (parse : Schema → Outcome) (candidates : List Schema) (i : Nat) (w : Value) :
    Prop :=
  (∃ t, candidates[i]? = some t ∧ parse t = .ok w) ∧
    ∀ j < i, ∀ t, candidates[j]? = some t → ∀ x, parse t ≠ .ok x

section First
variable {parse parse' : Schema → Outcome} {candidates : List Schema} {s : Schema} {i : Nat}
  {w : Value}

theorem FirstAccepted.imp (h : FirstAccepted parse candidates i w)
    (hparse : ∀ t ∈ candidates, ∀ x, parse t = .ok x ↔ parse' t = .ok x) :
    FirstAccepted parse' candidates i w := by
  obtain ⟨⟨t, ht, hw⟩, hbefore⟩ := h
  refine ⟨⟨t, ht, (hparse t (List.mem_of_getElem? ht) w).mp hw⟩, fun j hj u hu x hx => ?_⟩
  exact hbefore j hj u hu x ((hparse u (List.mem_of_getElem? hu) x).mpr hx)

theorem firstAccepted_congr
    (hparse : ∀ t ∈ candidates, ∀ x, parse t = .ok x ↔ parse' t = .ok x) :
    FirstAccepted parse candidates i w ↔ FirstAccepted parse' candidates i w :=
  ⟨fun h => h.imp hparse, fun h => h.imp fun t ht x => (hparse t ht x).symm⟩

theorem firstAccepted_cons_of_ok {x : Value} (h : parse s = .ok x) :
    (∃ i, FirstAccepted parse (s :: candidates) i w) ↔ x = w := by
  constructor
  · rintro ⟨i, ⟨t, ht, hw⟩, hbefore⟩
    cases i with
    | zero =>
      obtain rfl : s = t := Option.some.inj ht
      exact Except.ok.inj (h.symm.trans hw)
    | succ i => exact absurd h (hbefore 0 (Nat.succ_pos i) s rfl x)
  · rintro rfl
    exact ⟨0, ⟨s, rfl, h⟩, fun j hj => absurd hj (Nat.not_lt_zero j)⟩

theorem firstAccepted_cons_of_error {es : Failures} (h : parse s = .error es) :
    (∃ i, FirstAccepted parse (s :: candidates) i w) ↔
      ∃ i, FirstAccepted parse candidates i w := by
  constructor
  · rintro ⟨i, ⟨t, ht, hw⟩, hbefore⟩
    cases i with
    | zero =>
      obtain rfl : s = t := Option.some.inj ht
      rw [h] at hw
      cases hw
    | succ i =>
      exact ⟨i, ⟨t, ht, hw⟩, fun j hj => hbefore (j + 1) (Nat.succ_lt_succ hj)⟩
  · rintro ⟨i, ⟨t, ht, hw⟩, hbefore⟩
    refine ⟨i + 1, ⟨t, ht, hw⟩, fun j hj u hu x hx => ?_⟩
    cases j with
    | zero =>
      obtain rfl : s = u := Option.some.inj hu
      rw [h] at hx
      cases hx
    | succ j => exact hbefore j (Nat.lt_of_succ_lt_succ hj) u hu x hx

end First

/-- The search ends at the first candidate that accepts. -/
theorem evalFirst_eq_some_iff {o : Options} {candidates : List Schema} {v w : Value} :
    evalFirst o candidates v = some w ↔
      ∃ i, FirstAccepted (fun t => t.eval o v) candidates i w := by
  induction candidates with
  | nil => simp [evalFirst, FirstAccepted]
  | cons s rest ih =>
    simp only [evalFirst]
    cases h : s.eval o v with
    | ok x => rw [firstAccepted_cons_of_ok h, Option.some.injEq]
    | error es => rw [firstAccepted_cons_of_error h, ← ih]

theorem Schema.eval_union_eq_ok_iff {candidates : List Schema} {label : Label} {o : Options}
    {v w : Value} :
    (union candidates label).eval o v = .ok w ↔ evalFirst o candidates v = some w := by
  simp only [union, Schema.eval, evalSteps, Shape.eval]
  cases evalFirst o candidates v <;> simp

theorem Schema.steady_union {candidates : List Schema} {label : Label}
    (h : ∀ t ∈ candidates, t.Steady) : (union candidates label).Steady := by
  refine .intro (fun step hs => absurd hs List.not_mem_nil) fun t ht => h t ?_
  simpa [union, Shape.parts] using ht

/-- The test that goes with a union runs the candidates under the default options. -/
theorem Schema.accepts_union {candidates : List Schema} (h : ∀ t ∈ candidates, t.Steady)
    (label : Label) (v : Value) :
    Drawing.Yields ((union candidates label).accepts v) (evalFirst {} candidates v).isSome := by
  have hparts : ∀ t ∈ (Test.accepted candidates).parts, t.Evaluates :=
    fun t ht => run_yields (h t ht)
  exact Test.holds_yields hparts v

/-- **The kind of a union agrees with a parse.**  A union of steady candidates accepts a
value, under any options, exactly when its kind does.  What it returns is the output of
the first candidate that accepts the value, and that candidate is the same under all
options. -/
theorem Schema.union_agrees {candidates : List Schema} (steady : ∀ t ∈ candidates, t.Steady)
    (label : Label) (o : Options) (v : Value) (d : Draws) :
    let s := union candidates label
    let first := fun o d => FirstAccepted (fun t => (t.safeParse o v d).1) candidates
    (∀ d', (∃ w, (s.safeParse o v d).1 = .ok w) ↔ (s.accepts v d').1 = true) ∧
    (∀ w, (s.safeParse o v d).1 = .ok w ↔ ∃ i, first o d i w) ∧
    ∀ o' d' i w, first o d i w ↔ first o' d' i w := by
  intro s first
  have hrun : (s.safeParse o v d).1 = s.eval o v := run_yields (steady_union steady) v o d
  have hfirst : ∀ o d i w, first o d i w ↔ FirstAccepted (fun t => t.eval {} v) candidates i w := by
    intro o d i w
    refine firstAccepted_congr fun t ht x => ?_
    have ht : (t.safeParse o v d).1 = t.eval o v := run_yields (steady t ht) v o d
    rw [ht]
    exact t.eval_eq_ok_iff o {}
  have hok : ∀ w, (s.safeParse o v d).1 = .ok w ↔ evalFirst {} candidates v = some w := by
    intro w
    rw [hrun, s.eval_eq_ok_iff o {}, eval_union_eq_ok_iff]
  refine ⟨fun d' => ?_, fun w => ?_, fun o' d' i w => ?_⟩
  · have hkind : (s.accepts v d').1 = (evalFirst {} candidates v).isSome :=
      accepts_union steady label v d'
    rw [hkind, Option.isSome_iff_exists]
    exact exists_congr hok
  · rw [hok, evalFirst_eq_some_iff]
    exact exists_congr fun i => (hfirst o d i w).symm
  · rw [hfirst, hfirst]

/-- The second candidate of a union, a union itself, accepts what the first one
rejects. -/
theorem Schema.union_agrees_on_nested :
    let candidates := [refine (Condition.equals (.bool true)) (leaf .boolean {}),
      union [leaf .number {}, transform (fun _ => .null) (leaf .boolean {})] {}]
    let s := union candidates {}
    (s.accepts (.bool false) []).1 = true ∧
      (s.safeParse .collectAll (.bool false) []).1 = .ok .null ∧
      FirstAccepted (fun t => (t.safeParse {} (.bool false) []).1) candidates 1 .null := by
  intro candidates s
  have steady : ∀ t ∈ candidates, t.Steady := by
    simp [candidates, Steady, refine, transform, union, leaf, attach, Shape.parts, Test.parts,
      Step.parts, Step.Steady, Primitive.boolean, Primitive.number]
  obtain ⟨hkind, hfirst, hsame⟩ :=
    union_agrees steady {} .collectAll (.bool false) []
  have hok : (s.safeParse .collectAll (.bool false) []).1 = .ok .null := rfl
  refine ⟨(hkind []).mp ⟨_, hok⟩, hok, (hsame {} [] 1 .null).mp ?_⟩
  refine ⟨⟨_, rfl, rfl⟩, fun j hj t ht x => ?_⟩
  obtain rfl : j = 0 := Nat.lt_one_iff.mp hj
  obtain rfl := Option.some.inj ht
  exact fun h => by cases h

end SchemaEngine
