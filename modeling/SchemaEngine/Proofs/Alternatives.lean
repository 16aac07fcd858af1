import SchemaEngine.Proofs.Unions

/-!
# Lists of candidates

A union looks for the first candidate that accepts a value, and of the others it keeps
nothing.  This is the search for the first item of a list at which a function is defined
(`evalFirst_eq_findSome?`), so the laws of unions are laws of that search: it goes through two
lists joined together one after the other (`evalFirst_append`), and it looks into a union
among the candidates as if the candidates of that union stood in its place
(`evalFirst_singleton_union`).
-/

namespace SchemaEngine

section First
variable {o : Options} {candidates A C : List Schema} {v w : Value}

theorem evalFirst_eq_findSome? :
    evalFirst o candidates v = candidates.findSome? fun t => (t.eval o v).toOption := by
  induction candidates with
  | nil => rfl
  | cons s rest ih =>
    rw [evalFirst, List.findSome?_cons, ih]
    cases s.eval o v <;> rfl

theorem evalFirst_append (o : Options) (A C : List Schema) (v : Value) :
    evalFirst o (A ++ C) v = (evalFirst o A v).or (evalFirst o C v) := by
  simp only [evalFirst_eq_findSome?, List.findSome?_append]

theorem evalFirst_singleton_union (o : Options) (B : List Schema) (inner : Label) (v : Value) :
    evalFirst o [Schema.union B inner] v = evalFirst o B v := by
  have hone : evalFirst o [Schema.union B inner] v =
      ((Schema.union B inner).eval o v).toOption := by
    rw [evalFirst_eq_findSome?, List.findSome?_singleton]
  refine Option.ext fun w => ?_
  have hunion : (Schema.union B inner).eval o v = .ok w ↔ evalFirst o B v = some w :=
    Schema.eval_union_eq_ok_iff
  rw [hone, ← hunion]
  cases (Schema.union B inner).eval o v <;> simp [Except.toOption]

theorem evalFirst_eq_none_iff :
    evalFirst o candidates v = none ↔ ∀ t ∈ candidates, ∃ es, t.eval o v = .error es := by
  rw [evalFirst_eq_findSome?, List.findSome?_eq_none_iff]
  refine forall₂_congr fun t _ => ?_
  cases t.eval o v <;> simp [Except.toOption]

/-- Whether a schema fails does not hang on the options. -/
theorem Schema.eval_fails_iff (s : Schema) (o o' : Options) (v : Value) :
    (∃ es, s.eval o v = .error es) ↔ ∃ es, s.eval o' v = .error es := by
  have hok : ∀ w, s.eval o v = .ok w ↔ s.eval o' v = .ok w := fun w => s.eval_eq_ok_iff o o'
  cases h : s.eval o v with
  | ok w => rw [(hok w).mp h]
  | error es =>
    refine iff_of_true ⟨es, rfl⟩ ?_
    cases h' : s.eval o' v with
    | ok w => cases h.symm.trans ((hok w).mpr h')
    | error es' => exact ⟨es', rfl⟩

/-- Once a candidate was tried, trying it again makes no difference. -/
theorem evalFirst_repeat {t : Schema} (ht : t ∈ A) :
    evalFirst o (A ++ t :: C) v = evalFirst o (A ++ C) v := by
  have hsplit : A ++ t :: C = A ++ ([t] ++ C) := rfl
  rw [hsplit, evalFirst_append, evalFirst_append, evalFirst_append]
  cases hA : evalFirst o A v with
  | some w => rfl
  | none =>
    obtain ⟨es, hes⟩ := evalFirst_eq_none_iff.mp hA t ht
    simp [evalFirst, hes]

end First

namespace Schema

theorem union_eq_ok_iff {candidates : List Schema} (steady : ∀ t ∈ candidates, t.Steady)
    {label : Label} {o : Options} {v w : Value} {d : Draws} :
    ((union candidates label).safeParse o v d).1 = .ok w ↔ evalFirst o candidates v = some w := by
  have hrun : ((union candidates label).safeParse o v d).1 = (union candidates label).eval o v :=
    run_yields (steady_union steady) v o d
  rw [hrun, eval_union_eq_ok_iff]

/-- A union that accepts nothing says so by one failure of its own. -/
theorem union_eq_error_iff {candidates : List Schema} (steady : ∀ t ∈ candidates, t.Steady)
    {label : Label} {o : Options} {v : Value} {d : Draws} {es : Failures} :
    ((union candidates label).safeParse o v d).1 = .error es ↔
      evalFirst o candidates v = none ∧ es = .single (.noMatch candidates label v) := by
  have hrun : ((union candidates label).safeParse o v d).1 = (union candidates label).eval o v :=
    run_yields (steady_union steady) v o d
  rw [hrun, union, Schema.eval, evalSteps, Shape.eval]
  cases evalFirst o candidates v <;> simp [eq_comm]

/-- **Unions flatten and extend conservatively.**  Let the candidates be steady.

* A union without steps among the candidates can be replaced by its own candidates.
* More candidates behind the others leave what was accepted as it was.
* A candidate that comes once more makes no difference.
* A union fails when all candidates do, under whatever options, and then by one failure of the
  value as a whole, however many failures the candidates had. -/
theorem union_laws {A B C : List Schema} (steadyA : ∀ t ∈ A, t.Steady)
    (steadyB : ∀ t ∈ B, t.Steady) (steadyC : ∀ t ∈ C, t.Steady) (o : Options) (v : Value) :
    let parse := fun candidates label d => ((union candidates label).safeParse o v d).1
    (∀ inner l l' d d' w, parse (A ++ [union B inner] ++ C) l d = .ok w ↔
      parse (A ++ B ++ C) l' d' = .ok w) ∧
    (∀ l l' d d' w, parse A l d = .ok w → parse (A ++ C) l' d' = .ok w) ∧
    (∀ t ∈ A, ∀ l l' d d' w, parse (A ++ t :: C) l d = .ok w ↔ parse (A ++ C) l' d' = .ok w) ∧
    ∀ l d,
      (∀ o' d', (∃ es, parse A l d = .error es) ↔
        ∀ t ∈ A, ∃ es, (t.safeParse o' v d').1 = .error es) ∧
      ∀ es, parse A l d = .error es → ∃ e : Failure, es = .single e ∧ e.path = .root ∧
        e.key? = none ∧ e.code = "union_no_match" ∧ e.got = some v.typeName := by
  intro parse
  have steadyAC : ∀ t ∈ A ++ C, t.Steady := List.forall_mem_append.mpr ⟨steadyA, steadyC⟩
  refine ⟨fun inner l l' d d' w => ?_, fun l l' d d' w h => ?_, fun t ht l l' d d' w => ?_,
    fun l d => ⟨fun o' d' => ?_, fun es h => ?_⟩⟩
  · have steadyU : ∀ t ∈ [union B inner], t.Steady :=
      fun t ht => List.mem_singleton.mp ht ▸ steady_union steadyB
    have hleft : ∀ t ∈ A ++ [union B inner] ++ C, t.Steady :=
      List.forall_mem_append.mpr ⟨List.forall_mem_append.mpr ⟨steadyA, steadyU⟩, steadyC⟩
    have hright : ∀ t ∈ A ++ B ++ C, t.Steady :=
      List.forall_mem_append.mpr ⟨List.forall_mem_append.mpr ⟨steadyA, steadyB⟩, steadyC⟩
    rw [union_eq_ok_iff hleft, union_eq_ok_iff hright]
    simp only [evalFirst_append, evalFirst_singleton_union]
  · have hA := (union_eq_ok_iff steadyA).mp h
    rw [union_eq_ok_iff steadyAC, evalFirst_append, hA]
    rfl
  · have hleft : ∀ u ∈ A ++ t :: C, u.Steady :=
      List.forall_mem_append.mpr ⟨steadyA, List.forall_mem_cons.mpr ⟨steadyA t ht, steadyC⟩⟩
    rw [union_eq_ok_iff hleft, union_eq_ok_iff steadyAC, evalFirst_repeat ht]
  · have hfails : (∃ es, parse A l d = .error es) ↔ evalFirst o A v = none := by
      simp only [parse, union_eq_error_iff steadyA]
      exact ⟨fun ⟨_, h, _⟩ => h, fun h => ⟨_, h, rfl⟩⟩
    rw [hfails, evalFirst_eq_none_iff]
    refine forall₂_congr fun t ht => ?_
    have hrun : (t.safeParse o' v d').1 = t.eval o' v := run_yields (steadyA t ht) v o' d'
    rw [hrun]
    exact t.eval_fails_iff o o' v
  · obtain ⟨-, rfl⟩ := (union_eq_error_iff steadyA).mp h
    exact ⟨_, rfl, rfl, rfl, rfl, rfl⟩

/-- Of two candidates that accept a boolean, one in a union of its own, the first has its way;
with no candidate for booleans there is one failure. -/
theorem union_laws_of_nested :
    let A := [leaf .number {}]
    let B := [leaf .string {}, transform (fun _ => .null) (leaf .boolean {})]
    let C := [leaf .boolean {}]
    let parse := fun candidates => ((union candidates {}).safeParse {} (.bool true) []).1
    (∀ t ∈ A, t.Steady) ∧ (∀ t ∈ B, t.Steady) ∧ (∀ t ∈ C, t.Steady) ∧
    parse (A ++ B ++ C) = .ok .null ∧ parse (A ++ [union B {}] ++ C) = .ok .null ∧
    parse B = .ok .null ∧ parse (B ++ C) = .ok .null ∧ parse (A ++ A ++ C) = .ok (.bool true) ∧
    ∃ e : Failure, parse A = .error (.single e) ∧ e.code = "union_no_match" ∧
      e.got = some "boolean" := by
  intro A B C parse
  have steadyA : ∀ t ∈ A, t.Steady := by
    simp [A, Steady, leaf, Shape.parts, Test.parts, Primitive.number]
  have steadyB : ∀ t ∈ B, t.Steady := by
    simp [B, Steady, transform, leaf, attach, Shape.parts, Test.parts, Step.parts, Step.Steady,
      Primitive.string, Primitive.boolean]
  have steadyC : ∀ t ∈ C, t.Steady := by
    simp [C, Steady, leaf, Shape.parts, Test.parts, Primitive.boolean]
  have hflat : parse (A ++ B ++ C) = .ok .null := rfl
  have hB : parse B = .ok .null := rfl
  have honce : parse (A ++ C) = .ok (.bool true) := rfl
  have hA : parse A = .error (.single (.noMatch A {} (.bool true))) := rfl
  obtain ⟨hflatten, -, hagain, hfails⟩ := union_laws steadyA steadyB steadyC {} (.bool true)
  obtain ⟨-, hextend, -, -⟩ := union_laws steadyB steadyA steadyC {} (.bool true)
  refine ⟨steadyA, steadyB, steadyC, hflat, (hflatten _ _ _ _ _ _).mpr hflat, hB,
    hextend _ _ _ _ _ hB, (hagain _ (List.mem_singleton_self _) _ _ _ _ _).mpr honce, ?_⟩
  obtain ⟨e, he, -, -, hcode, hgot⟩ := (hfails {} []).2 _ hA
  exact ⟨e, hA.trans (congrArg _ he), hcode, hgot⟩

end Schema

end SchemaEngine
