import SchemaEngine.Proofs.Evaluation

/-!
# Outputs parsed again

A schema that only checks values still returns something else than it received: it
drops members that no field declares, leaves out what is absent and fills in
defaults.  Parsing such an output once more changes nothing
(`Schema.output_fixed`), provided that no node on a path through fields and elements
converts values, pipes them on or is a union.

The induction needs a second fact beside the first (`Stable`): what is present does
not come out absent.  Without it the default of a step could act in the second run
on what the first run had put through.
-/

namespace SchemaEngine

/-! ## Schemas that only check -/

/-- The step converts no value and passes none on. -/
def Step.Checking : Step → Prop
  | .preprocess _ => False
  | .transform _ => False
  | .pipe _ => False
  | _ => True

/-- The shape is not a union. -/
def Shape.Checking : Shape → Prop
  | .union _ => False
  | _ => True

/-- No node on a path through fields and elements is a union or has a step that
converts. -/
def Schema.Checking (s : Schema) : Prop :=
  s.All Schema.children fun t => t.shape.Checking ∧ ∀ step ∈ t.steps, step.Checking

/-- Outputs are fixed points, and what is present does not come out absent. -/
structure Stable (f : Value → Outcome) : Prop where
  /-- An output is its own output. -/
  fixed : ∀ {v w : Value}, f v = .ok w → f w = .ok w
  /-- A value that is present has an output that is present. -/
  present : ∀ {v w : Value}, f v = .ok w → v.isUndefined = false → w.isUndefined = false

/-! ## Steps -/

section Steps
variable {f : Value → Outcome} {o : Options}

theorem Outcome.rescue_eq_ok {r : Outcome} {rescued : Bool} {v w : Value}
    (h : r.rescue rescued v = .ok w) : r = .ok w ∨ rescued = true ∧ v = w := by
  cases r with
  | ok u => exact .inl h
  | error es =>
    cases rescued with
    | true => exact .inr ⟨rfl, Except.ok.inj h⟩
    | false => cases h

/-- A rescue that lets its input pass as it is. -/
theorem Stable.rescue {rescued : Value → Bool} {passed : Value → Value} (hf : Stable f)
    (hpassed : ∀ v, rescued v = true → passed v = v) :
    Stable fun v => (f v).rescue (rescued v) (passed v) where
  fixed {v w} h := by
    rcases Outcome.rescue_eq_ok h with hv | ⟨hr, hw⟩
    · simp only [hf.fixed hv, Outcome.rescue]
    · -- the output is the input, so the second run is the first
      obtain rfl : v = w := (hpassed v hr).symm.trans hw
      exact h
  present {v w} h hv := by
    rcases Outcome.rescue_eq_ok h with h | ⟨hr, hw⟩
    · exact hf.present h hv
    · rwa [← hw, hpassed v hr]

theorem Stable.default (hf : Stable f) (fallback : Fallback) :
    Stable ((Step.default fallback).wrapEval o f) where
  fixed {v w} h := by
    simp only [Step.wrapEval] at h ⊢
    cases hw : w.isUndefined with
    | false => simpa using hf.fixed h
    | true =>
      -- only an absent input comes out absent, and then the second run is the first
      cases hv : v.isUndefined with
      | true => simpa [hv] using h
      | false =>
        rw [hv] at h
        have := hf.present h hv
        simp [hw] at this
  present {v w} h hv := by
    simp only [Step.wrapEval, hv] at h
    exact hf.present h hv

theorem Step.wrapEval_refine_eq_ok {test : Test} {message : Option Message} {subject : Subject}
    {v w : Value} :
    (Step.refine test message subject).wrapEval o f v = .ok w ↔
      f v = .ok w ∧ test.eval w = true := by
  simp only [Step.wrapEval]
  cases f v with
  | error es => simp
  | ok u =>
    by_cases hu : test.eval u = true
    · simp only [if_pos hu, Except.ok.injEq]
      exact ⟨fun h => ⟨h, h ▸ hu⟩, And.left⟩
    · simp only [if_neg hu, Except.ok.injEq, reduceCtorEq, false_iff]
      rintro ⟨rfl, hw⟩
      exact hu hw

theorem Stable.refine (hf : Stable f) (test : Test) (message : Option Message)
    (subject : Subject) : Stable ((Step.refine test message subject).wrapEval o f) where
  fixed h := by
    rw [Step.wrapEval_refine_eq_ok] at h ⊢
    exact ⟨hf.fixed h.1, h.2⟩
  present h hv := hf.present (Step.wrapEval_refine_eq_ok.mp h).1 hv

theorem Step.wrapEval_stable {step : Step} (checking : step.Checking) (hf : Stable f) :
    Stable (step.wrapEval o f) := by
  cases step with
  | preprocess c => exact checking.elim
  | transform c => exact checking.elim
  | pipe next => exact checking.elim
  | default fallback => exact hf.default fallback
  | refine test message subject => exact hf.refine test message subject
  | optional => exact hf.rescue fun v hv => (Value.eq_undefined hv).symm
  | nullable => exact hf.rescue fun v hv => (Value.eq_null hv).symm
  | nullish => exact hf.rescue fun v _ => rfl

theorem evalSteps_stable {steps : List Step} (checking : ∀ step ∈ steps, step.Checking)
    (hf : Stable f) : Stable (evalSteps o steps f) := by
  induction steps generalizing f with
  | nil => exact hf
  | cons step outer ih =>
    exact ih (fun s hs => checking s (List.mem_cons_of_mem _ hs))
      (Step.wrapEval_stable (checking step (List.mem_cons_self ..)) hf)

end Steps

/-! ## Parts of a value -/

/-- The member at a name is the output of its field, left out or not. -/
theorem find?_presentMembers {ws : List (String × Value)} (distinct : Entries.Distinct ws)
    {name : String} {w : Value} (hw : (name, w) ∈ ws) :
    (Entries.find? name (presentMembers ws)).getD .undefined = w := by
  have hsub : (presentMembers ws).Sublist ws := List.filter_sublist
  have hpresent : Entries.Distinct (presentMembers ws) := distinct.sublist (hsub.map Prod.fst)
  cases hf : Entries.find? name (presentMembers ws) with
  | some x =>
    have hx := Entries.find?_of_mem distinct (hsub.subset (Entries.mem_of_find? hf))
    rw [Entries.find?_of_mem distinct hw] at hx
    exact (Option.some.inj hx).symm
  | none =>
    cases hu : w.isUndefined with
    | true => exact (Value.eq_undefined hu).symm
    | false =>
      have hmem : (name, w) ∈ presentMembers ws := List.mem_filter.mpr ⟨hw, by simp [hu]⟩
      rw [Entries.find?_of_mem hpresent hmem] at hf
      cases hf

/-- The fields make of what they made of an object the same again. -/
theorem evalFields_present {o : Options} {fields : List (String × Schema)}
    {members : Entries Value} {ws : List (String × Value)} (distinct : Entries.Distinct fields)
    (stable : ∀ p ∈ fields, Stable (p.2.eval o))
    (h : evalFields o fields members = ws.map fun p => (p.1, .ok p.2)) :
    evalFields o fields (presentMembers ws) = ws.map fun p => (p.1, .ok p.2) := by
  have hnames : Entries.names fields = Entries.names ws := by
    have := congrArg (List.map Prod.fst) h
    simpa [evalFields_eq_map, Entries.names, Function.comp_def] using this
  have hws : Entries.Distinct ws := by
    rw [Entries.Distinct, ← hnames]
    exact distinct
  rw [← h, evalFields_eq_map, evalFields_eq_map]
  refine List.map_congr_left fun p hp => ?_
  -- the field has an output in `ws`, and finds it again as its member
  have hmem : (p.1, p.2.eval o ((members.find? p.1).getD .undefined)) ∈
      ws.map fun q => (q.1, (.ok q.2 : Outcome)) := by
    rw [← h, evalFields_eq_map]
    exact List.mem_map_of_mem hp
  obtain ⟨q, hq, he⟩ := List.mem_map.mp hmem
  obtain ⟨hname, hok⟩ := Prod.mk.inj he
  have hq : (p.1, q.2) ∈ ws := hname ▸ hq
  rw [find?_presentMembers hws hq, ← hok, (stable p hp).fixed hok.symm]

/-- The items make of what was made of a sequence the same again. -/
theorem evalItems_outputs {f : Value → Outcome} (stable : Stable f) {items : List Value}
    {ws : List (Nat × Value)} (i : Nat)
    (h : ((items.zipIdx i).map fun p => (p.2, f p.1)) = ws.map fun p => (p.1, .ok p.2)) :
    (((ws.map Prod.snd).zipIdx i).map fun p => (p.2, f p.1)) =
      ws.map fun p => (p.1, .ok p.2) := by
  induction items generalizing i ws with
  | nil =>
    obtain rfl : ws = [] := by simpa using h.symm
    rfl
  | cons v rest ih =>
    cases ws with
    | nil => cases h
    | cons q qs =>
      obtain ⟨j, w⟩ := q
      obtain ⟨hhead, htail⟩ := List.cons.inj h
      obtain ⟨rfl, hw⟩ := Prod.mk.inj hhead
      have hfixed : f w = .ok w := stable.fixed hw
      simp only [List.map_cons, List.zipIdx_cons, hfixed, ih (i + 1) htail]

/-! ## Shapes and schemas -/

theorem Shape.eval_stable {shape : Shape} {o : Options} (checking : shape.Checking)
    (distinct : shape.fieldNames.Nodup) (children : ∀ t ∈ shape.children, Stable (t.eval o))
    (label : Label) : Stable (shape.eval o label) := by
  -- on one value, a shape takes it apart or keeps it as it is
  have hcases : ∀ v w, shape.eval o label v = .ok w → shape.eval o label w = .ok w ∧
      (v.isUndefined = false → w.isUndefined = false) := by
    intro v w h
    rcases shape.eval_cases label v with ⟨fields, members, rfl, rfl⟩ |
      ⟨element, items, rfl, rfl⟩ | ⟨candidates, rfl⟩ | ⟨accepted, heval⟩
    · have hfields : ∀ p ∈ fields, Stable (p.2.eval o) :=
        fun p hp => children p.2 (List.mem_map_of_mem hp)
      simp only [Shape.eval] at h
      obtain ⟨ws, hs, rfl⟩ := map_eq_ok_iff.mp h
      have hagain := evalFields_present distinct hfields (settle_eq_ok_iff.mp hs)
      refine ⟨?_, fun _ => rfl⟩
      simp only [Shape.eval]
      exact map_eq_ok_iff.mpr ⟨ws, settle_eq_ok_iff.mpr hagain, rfl⟩
    · have helement : Stable (element.eval o) := children element (List.mem_singleton.mpr rfl)
      simp only [Shape.eval] at h
      obtain ⟨ws, hs, rfl⟩ := map_eq_ok_iff.mp h
      have hagain := evalItems_outputs helement 0 (settle_eq_ok_iff.mp hs)
      refine ⟨?_, fun _ => rfl⟩
      simp only [Shape.eval]
      exact map_eq_ok_iff.mpr ⟨ws, settle_eq_ok_iff.mpr hagain, rfl⟩
    · exact checking.elim
    · have hv := h
      rw [heval] at hv
      cases accepted with
      | false => cases hv
      | true =>
        obtain rfl := Except.ok.inj hv
        exact ⟨h, id⟩
  exact ⟨fun h => (hcases _ _ h).1, fun h => (hcases _ _ h).2⟩

theorem Schema.eval_stable {s : Schema} {o : Options} (wf : s.WellFormed)
    (checking : s.Checking) : Stable (s.eval o) := by
  induction s using Schema.induction with
  | node shape label steps hshape _ =>
    have hchildren : ∀ t ∈ shape.children, Stable (t.eval o) := by
      intro t ht
      have hpart : t ∈ shape.parts := by
        cases shape with
        | object fields => exact ht
        | array element => exact ht
        | _ => cases ht
      exact hshape t hpart (wf.of_shape hpart) (checking.of_mem ht)
    exact evalSteps_stable checking.self.2
      (Shape.eval_stable checking.self.1 wf.self hchildren label)

/-- **A validated output is a fixed point.**  What a steady schema that only checks
returned for some value, it returns for that output again, under the same options and
whatever was drawn in between: the same members in the same order, the same numbers. -/
theorem Schema.output_fixed {s : Schema} (wf : s.WellFormed) (steady : s.Steady)
    (checking : s.Checking) {o : Options} {v w : Value} {d : Draws}
    (h : (s.safeParse o v d).1 = .ok w) (d' : Draws) : (s.safeParse o w d').1 = .ok w := by
  have hfirst : (s.safeParse o v d).1 = s.eval o v := run_yields steady v o d
  have hagain : (s.safeParse o w d').1 = s.eval o w := run_yields steady w o d'
  rw [hagain]
  exact (eval_stable wf checking).fixed (hfirst.symm.trans h)

/-- The first run drops a member, fills in a default and leaves out an absent field. -/
theorem Schema.output_fixed_of_stripped :
    let s := object [("tags", default (.array []) (array (leaf .string {}) {})),
      ("name", leaf .string {}), ("note", optional (leaf .string {}))] {}
    let v := Value.object [("name", .text "a"), ("extra", .null)]
    let w := Value.object [("tags", .array []), ("name", .text "a")]
    (s.safeParse {} v []).1 = .ok w ∧ (s.safeParse {} w []).1 = .ok w := by
  intro s v w
  have wf : s.WellFormed := by
    simp [s, WellFormed, optional, default, object, leaf, array, attach, Entries.ofList,
      Entries.put, Entries.names, Shape.parts, Shape.fieldNames, Test.parts, Step.parts,
      Primitive.string]
  have steady : s.Steady := by
    simp [s, Steady, optional, default, object, leaf, array, attach, Entries.ofList, Entries.put,
      Shape.parts, Test.parts, Step.parts, Step.Steady, Fallback.Steady, Primitive.string]
  have checking : s.Checking := by
    simp [s, Checking, Shape.Checking, Step.Checking, optional, default, object, leaf, array,
      attach, Entries.ofList, Entries.put, Shape.children]
  have hv : (s.safeParse {} v []).1 = .ok w := rfl
  exact ⟨hv, output_fixed wf steady checking hv []⟩

end SchemaEngine
