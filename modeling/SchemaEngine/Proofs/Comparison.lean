import Mathlib.Data.List.Forall2
import SchemaEngine.Proofs.Drawing
import SchemaEngine.Proofs.Layers

/-!
# Two parses side by side

Two parses are compared as they go.  Started from the same draws they have to leave the
same draws, and what they return has to agree: the same output, or as many failures,
one by one in a relation `R` (`Outcome.Agree`).

A comparison enters through the inputs or through the schemas.  `V` relates the inputs
of corresponding layers; a step may rely on its input only to see whether it is absent
or null, so `V` must be equality there (`Indistinct`).  `Step.Corresponds` says
constructor by constructor what a pair of steps needs, and `run_related` puts the layers
of two nodes together, given the comparison of their shapes.
-/

namespace SchemaEngine

/-! ## Computations -/

namespace Drawing
variable {α β γ δ : Type} {P : α → β → Prop} {Q : γ → δ → Prop}

/-- From the same draws, two computations return what `P` relates and leave the same
draws. -/
def Related (P : α → β → Prop) (m : Drawing α) (m' : Drawing β) : Prop :=
  ∀ d, P (m d).1 (m' d).1 ∧ (m d).2 = (m' d).2

theorem related_pure {x : α} {y : β} (h : P x y) : Related P (pure x) (pure y) :=
  fun _ => ⟨h, rfl⟩

theorem related_refl {P : α → α → Prop} (h : ∀ x, P x x) (m : Drawing α) : Related P m m :=
  fun d => ⟨h (m d).1, rfl⟩

theorem Related.bind {m : Drawing α} {m' : Drawing β} {f : α → Drawing γ} {f' : β → Drawing δ}
    (hm : Related P m m') (hf : ∀ x y, P x y → Related Q (f x) (f' y)) :
    Related Q (m >>= f) (m' >>= f') := by
  intro d
  obtain ⟨hP, hd⟩ := hm d
  have hnext := hf _ _ hP (m d).2
  have hsame : (m' >>= f') d = f' (m' d).1 (m d).2 := by rw [hd]; rfl
  rw [hsame]
  exact hnext

theorem Related.symm {m : Drawing α} {m' : Drawing β} (h : Related P m m') :
    Related (fun y x => P x y) m' m :=
  fun d => ⟨(h d).1, (h d).2.symm⟩

theorem Related.trans {R : β → γ → Prop} {S : α → γ → Prop} {m : Drawing α} {m' : Drawing β}
    {m'' : Drawing γ} (h : Related P m m') (h' : Related R m' m'')
    (hS : ∀ x y z, P x y → R y z → S x z) : Related S m m'' :=
  fun d => ⟨hS _ _ _ (h d).1 (h' d).1, (h d).2.trans (h' d).2⟩

/-- When one computation always returns the same, it does not matter from which draws it
starts. -/
theorem Related.of_yields {m : Drawing α} {m' : Drawing β} {y : β} (h : Related P m m')
    (hy : Yields m' y) (d d' : Draws) : P (m d).1 (m' d').1 := by
  rw [hy d', ← hy d]
  exact (h d).1

end Drawing

open Drawing (Related related_pure related_refl)

/-! ## Results -/

/-- The same output, or as many failures, one by one in a relation. -/
inductive Outcome.Agree (R : Failure → Failure → Prop) : Outcome → Outcome → Prop
  | ok (w : Value) : Agree R (.ok w) (.ok w)
  | error {es fs : Failures} : List.Forall₂ R es.toList fs.toList → Agree R (.error es) (.error fs)

/-- The relation does not hang on what is said of a refinement or of the enclosing
values. -/
structure Failure.Lasting (R : Failure → Failure → Prop) : Prop where
  /-- It passes to the enclosing value. -/
  under : ∀ {e f : Failure} (s : Segment), R e f → R (e.under s) (f.under s)
  /-- It holds of refinements that reject the same output. -/
  refinement : ∀ m m' x x' w, R (.refinement m x w) (.refinement m' x' w)

section Results
variable {R : Failure → Failure → Prop} {r r' : Outcome}

theorem Outcome.agree_refl (hR : ∀ e, R e e) (r : Outcome) : r.Agree R r := by
  cases r with
  | ok w => exact .ok w
  | error es => exact .error (List.forall₂_same.mpr fun e _ => hR e)

theorem Outcome.agree_single {e f : Failure} (h : R e f) :
    Agree R (.error (.single e)) (.error (.single f)) :=
  .error (.cons h .nil)

theorem Outcome.Agree.symm (h : r.Agree R r') (hR : ∀ e f, R e f → R f e) : r'.Agree R r := by
  cases h with
  | ok w => exact .ok w
  | error hes => exact .error (hes.flip.imp fun e f hef => hR f e hef)

theorem Outcome.Agree.trans {r'' : Outcome} (h : r.Agree R r') (h' : r'.Agree R r'')
    (hR : ∀ e f g, R e f → R f g → R e g) : r.Agree R r'' := by
  have htrans : ∀ {es fs gs : List Failure}, List.Forall₂ R es fs → List.Forall₂ R fs gs →
      List.Forall₂ R es gs := by
    intro es fs gs hes
    induction hes generalizing gs with
    | nil => exact id
    | cons hef _ ih =>
      intro hfs
      cases hfs with
      | cons hfg hrest => exact .cons (hR _ _ _ hef hfg) (ih hrest)
  cases h with
  | ok w => exact h'
  | error hes =>
    cases h' with
    | error hfs => exact .error (htrans hes hfs)

/-- Two computations that agree with a third agree. -/
theorem Outcome.Agree.related_of_common {m m' m'' : Drawing Outcome}
    (symm : ∀ e f, R e f → R f e) (trans : ∀ e f g, R e f → R f g → R e g)
    (h : Related (Outcome.Agree R) m m'') (h' : Related (Outcome.Agree R) m' m'') :
    Related (Outcome.Agree R) m m' := by
  refine h.trans h'.symm fun x y z hxy hzy => ?_
  have hyz : y.Agree R z := hzy.symm symm
  exact hxy.trans hyz trans

/-- A rescue that two layers agree on, each with its own input. -/
theorem Outcome.Agree.rescue {b b' : Bool} {v v' : Value} (h : r.Agree R r') (hb : b = b')
    (hv : b = true → v = v') : (r.rescue b v).Agree R (r'.rescue b' v') := by
  subst hb
  cases h with
  | ok w => exact .ok w
  | error hes =>
    cases b with
    | false => exact .error hes
    | true =>
      obtain rfl := hv rfl
      exact .ok v

end Results

/-! ## Parts of a value -/

/-- The same outputs, and as many failures, one by one in a relation. -/
structure Gathered.Agree {α : Type} (R : Failure → Failure → Prop) (g g' : Gathered α) : Prop where
  /-- The outputs are the same. -/
  outputs : g.outputs = g'.outputs
  /-- The failures are in the relation. -/
  failures : List.Forall₂ R g.failures g'.failures

section Parts
variable {α : Type} {R : Failure → Failure → Prop} {o : Options} {g g' : Gathered α}

theorem Gathered.agree_none : Agree R (none : Gathered α) none := ⟨rfl, .nil⟩

theorem Gathered.Agree.accept (h : g.Agree R g') (x : α) : (g.accept x).Agree R (g'.accept x) :=
  ⟨congrArg (x :: ·) h.outputs, h.failures⟩

theorem Gathered.Agree.reject (h : g.Agree R g') {es fs : Failures}
    (hes : List.Forall₂ R es.toList fs.toList) : (g.reject es).Agree R (g'.reject fs) :=
  ⟨h.outputs, List.rel_append hes h.failures⟩

theorem Gathered.Agree.acceptMember {g g' : Gathered (String × Value)} (h : g.Agree R g')
    (name : String) (w : Value) : (g.acceptMember name w).Agree R (g'.acceptMember name w) := by
  unfold Gathered.acceptMember
  split
  · exact h
  · exact h.accept _

theorem Gathered.Agree.outcome (h : g.Agree R g') (assemble : List α → Value) :
    (g.outcome assemble).Agree R (g'.outcome assemble) := by
  obtain ⟨outputs, failures⟩ := g
  obtain ⟨outputs', failures'⟩ := g'
  obtain ⟨rfl, hfailures⟩ := h
  cases hfailures with
  | nil => exact .ok _
  | cons hef hrest => exact .error (.cons hef hrest)

theorem Failure.Lasting.forall₂_under (hR : Failure.Lasting R) {es fs : Failures}
    (h : List.Forall₂ R es.toList fs.toList) (s : Segment) :
    List.Forall₂ R (es.under s).toList (fs.under s).toList := by
  rw [Failures.toList_under, Failures.toList_under, List.forall₂_map_left_iff,
    List.forall₂_map_right_iff]
  exact h.imp fun e f hef => hR.under s hef

/-- Fields of the same names whose schemas agree on what they are given. -/
theorem gatherFields_related (hR : Failure.Lasting R) {fields fields' : List (String × Schema)}
    {members members' : Entries Value}
    (h : List.Forall₂ (fun p q => p.1 = q.1 ∧
      Related (Outcome.Agree R) (p.2.run ((members.find? p.1).getD .undefined) o)
        (q.2.run ((members'.find? q.1).getD .undefined) o)) fields fields') :
    Related (Gathered.Agree R) (gatherFields fields members o)
      (gatherFields fields' members' o) := by
  induction h with
  | nil => exact related_pure Gathered.agree_none
  | @cons p q rest rest' hpq _ ih =>
    obtain ⟨name, s⟩ := p
    obtain ⟨name', s'⟩ := q
    obtain ⟨hname, hrun⟩ := hpq
    obtain rfl : name = name' := hname
    simp only [gatherFields]
    refine hrun.bind fun r r' hr => ?_
    cases hr with
    | ok w => exact ih.bind fun g g' hg => related_pure (hg.acceptMember name w)
    | error hes =>
      have hunder := hR.forall₂_under hes (.field name)
      by_cases ho : o.abortEarly = true
      · simp only [if_pos ho]
        exact related_pure (Gathered.agree_none.reject hunder)
      · simp only [if_neg ho]
        exact ih.bind fun g g' hg => related_pure (hg.reject hunder)

/-- Items on which two parsers agree. -/
theorem gatherItems_related (hR : Failure.Lasting R) {parse parse' : Value → Drawing Outcome}
    {items items' : List Value}
    (h : List.Forall₂ (fun v v' => Related (Outcome.Agree R) (parse v) (parse' v')) items items')
    (i : Nat) :
    Related (Gathered.Agree R) (gatherItems parse o i items) (gatherItems parse' o i items') := by
  induction h generalizing i with
  | nil => exact related_pure Gathered.agree_none
  | cons hrun _ ih =>
    simp only [gatherItems]
    refine hrun.bind fun r r' hr => ?_
    cases hr with
    | ok w => exact (ih (i + 1)).bind fun g g' hg => related_pure (hg.accept w)
    | error hes =>
      have hunder := hR.forall₂_under hes (.index i)
      by_cases ho : o.abortEarly = true
      · simp only [if_pos ho]
        exact related_pure (Gathered.agree_none.reject hunder)
      · simp only [if_neg ho]
        exact (ih (i + 1)).bind fun g g' hg => related_pure (hg.reject hunder)

end Parts

/-! ## Steps -/

/-- Inputs that no rescue and no default tells apart. -/
structure Indistinct (V : Value → Value → Prop) : Prop where
  /-- An input is not told apart from itself. -/
  refl : ∀ v, V v v
  /-- Two inputs of which one is absent or null are the same. -/
  nullish : ∀ {v v' : Value}, V v v' → v ≠ v' → v.isNullish = false ∧ v'.isNullish = false

/-- What two steps need in order to keep two parses together. -/
inductive Step.Corresponds (V : Value → Value → Prop) (R : Failure → Failure → Prop)
    (o : Options) : Step → Step → Prop
  | optional : Corresponds V R o .optional .optional
  | nullable : Corresponds V R o .nullable .nullable
  | nullish : Corresponds V R o .nullish .nullish
  | default (fallback : Fallback) : Corresponds V R o (.default fallback) (.default fallback)
  | preprocess (f : Conversion) : (∀ v v', V v v' → V (f v) (f v')) →
      Corresponds V R o (.preprocess f) (.preprocess f)
  | transform (f : Conversion) : Corresponds V R o (.transform f) (.transform f)
  | pipe {next next' : Schema} :
      (∀ w, Related (Outcome.Agree R) (next.run w o) (next'.run w o)) →
      Corresponds V R o (.pipe next) (.pipe next')
  | refine {test test' : Test} {m m' : Option Message} {subject subject' : Subject} :
      (∀ w, Related Eq (test.holds w) (test'.holds w)) →
      Corresponds V R o (.refine test m subject) (.refine test' m' subject')

section Steps
variable {V : Value → Value → Prop} {R : Failure → Failure → Prop} {o : Options}

theorem indistinct_eq : Indistinct (· = ·) := ⟨fun _ => rfl, fun h hne => absurd h hne⟩

theorem Indistinct.same (hV : Indistinct V) {v v' : Value} (h : V v v') :
    v = v' ∨ v.isNull = false ∧ v'.isNull = false ∧ v.isUndefined = false ∧
      v'.isUndefined = false := by
  by_cases hvv : v = v'
  · exact .inl hvv
  · obtain ⟨hv, hv'⟩ := hV.nullish h hvv
    obtain ⟨hnull, hundefined⟩ := Bool.or_eq_false_iff.mp hv
    obtain ⟨hnull', hundefined'⟩ := Bool.or_eq_false_iff.mp hv'
    exact .inr ⟨hnull, hnull', hundefined, hundefined'⟩

theorem Step.Corresponds.wrap {step step' : Step} {below below' : Value → Drawing Outcome}
    (hV : Indistinct V) (hR : Failure.Lasting R) (h : step.Corresponds V R o step')
    (hbelow : ∀ v v', V v v' → Related (Outcome.Agree R) (below v) (below' v')) {v v' : Value}
    (hv : V v v') : Related (Outcome.Agree R) (step.wrap o below v) (step'.wrap o below' v') := by
  have hsame := hV.same hv
  -- two layers that rescue the same inputs
  have hrescue : ∀ b b' x x', b = b' → (b = true → x = x') → Related (Outcome.Agree R)
      (do return (← below v).rescue b x) (do return (← below' v').rescue b' x') :=
    fun b b' x x' hb hx =>
      (hbelow v v' hv).bind fun r r' hr => related_pure (hr.rescue hb hx)
  cases h with
  | optional =>
    refine hrescue _ _ _ _ ?_ fun _ => rfl
    rcases hsame with rfl | ⟨-, -, hu, hu'⟩
    · rfl
    · rw [hu, hu']
  | nullable =>
    refine hrescue _ _ _ _ ?_ fun _ => rfl
    rcases hsame with rfl | ⟨hn, hn', -, -⟩
    · rfl
    · rw [hn, hn']
  | nullish =>
    by_cases hvv : v = v'
    · subst hvv
      exact hrescue _ _ _ _ rfl fun _ => rfl
    · obtain ⟨hb, hb'⟩ := hV.nullish hv hvv
      refine hrescue _ _ _ _ (hb.trans hb'.symm) fun htrue => ?_
      rw [hb] at htrue
      cases htrue
  | default fallback =>
    simp only [Step.wrap]
    rcases hsame with rfl | ⟨-, -, hu, hu'⟩
    -- the value that stands in is the same, and so is an input that is not absent
    · split
      · refine (related_refl (P := Eq) (fun _ => rfl) fallback.resolve).bind ?_
        rintro w _ rfl
        exact hbelow w w (hV.refl w)
      · exact hbelow v v hv
    · rw [hu, hu']
      exact hbelow v v' hv
  | preprocess f hf => exact hbelow _ _ (hf v v' hv)
  | transform f =>
    simp only [Step.wrap]
    refine (hbelow v v' hv).bind fun r r' hr => ?_
    cases hr with
    | ok w => exact related_pure (.ok _)
    | error hes => exact related_pure (.error hes)
  | pipe hnext =>
    simp only [Step.wrap]
    refine (hbelow v v' hv).bind fun r r' hr => ?_
    cases hr with
    | ok w => exact hnext w
    | error hes => exact related_pure (.error hes)
  | refine htest =>
    simp only [Step.wrap]
    refine (hbelow v v' hv).bind fun r r' hr => ?_
    cases hr with
    | error hes => exact related_pure (.error hes)
    | ok w =>
      refine (htest w).bind ?_
      rintro b _ rfl
      cases b with
      | true => exact related_pure (.ok w)
      | false => exact related_pure (Outcome.agree_single (hR.refinement _ _ _ _ w))

theorem layered_related {steps steps' : List Step} {base base' : Value → Drawing Outcome}
    (hV : Indistinct V) (hR : Failure.Lasting R)
    (h : List.Forall₂ (Step.Corresponds V R o) steps steps')
    (hbase : ∀ v v', V v v' → Related (Outcome.Agree R) (base v) (base' v')) {v v' : Value}
    (hv : V v v') :
    Related (Outcome.Agree R) (layered o base steps v) (layered o base' steps' v') := by
  induction h generalizing v v' with
  | nil => exact hbase v v' hv
  | cons hstep _ ih => exact hstep.wrap hV hR (fun w w' hw => ih hw) hv

/-- **Two nodes side by side**: their steps correspond one by one, and their shapes agree
on all inputs that `V` relates. -/
theorem run_related {shape shape' : Shape} {label label' : Label} {steps steps' : List Step}
    (hV : Indistinct V) (hR : Failure.Lasting R)
    (h : List.Forall₂ (Step.Corresponds V R o) steps steps')
    (hbase : ∀ v v', V v v' →
      Related (Outcome.Agree R) (shape.base label v o) (shape'.base label' v' o)) {v v' : Value}
    (hv : V v v') :
    Related (Outcome.Agree R) ((Schema.node shape label steps).run v o)
      ((Schema.node shape' label' steps').run v' o) := by
  rw [Schema.run, Schema.run, walks_eq_layered o (fun w => shape.base label w o),
    walks_eq_layered o (fun w => shape'.base label' w o)]
  exact layered_related hV hR (List.forall₂_reverse_iff.mpr h) hbase hv

end Steps

end SchemaEngine
