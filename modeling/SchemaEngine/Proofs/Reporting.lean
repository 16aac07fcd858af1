import SchemaEngine.Proofs.Gauges

/-!
# No failure without failures

Execution keeps failures in lists, and an object or a sequence takes an empty list for success.
Lists that are returned, or put under a segment, go through `collected`, which stops at an empty
one.  A part that failed with an empty list would thus stop the execution or, worse, leave the
whole accepted.

No part does.  `Guarded.Keeps` says of a computation that it does not stop for want of failures
and that what it returns has a property.  Every function of the execution keeps its reports
`Founded`; this goes by recursion over assemblies, as the execution does
(`Assembly.keeps_execute`), and holds whether or not frames and gauges fit.  Obtainable assemblies
do not stop for another reason either, and so the parse for the first failure always has one
(`Assembly.failures_reported`).
-/

namespace SchemaEngine

/-- A report of failures has at least one. -/
def Founded (r : Report) : Prop := r ≠ .error []

namespace Guarded

/-- Whatever was drawn, the computation does not stop for want of failures, and what it returns
has a property. -/
def Keeps {α : Type} (m : Guarded α) (P : α → Prop) : Prop :=
  ∀ d, (m d).1 ≠ .error .noFailure ∧ ∀ x, (m d).1 = .ok x → P x

section Keeps
variable {α β : Type} {P : α → Prop} {Q : β → Prop}

theorem keeps_pure {x : α} (h : P x) : Keeps (pure x) P :=
  fun _ => ⟨nofun, fun _ hx => Except.ok.inj hx ▸ h⟩

theorem keeps_throw (fault : Fault) (h : fault ≠ .noFailure) :
    Keeps (throw fault : Guarded α) P :=
  fun _ => ⟨fun hfault => h (Except.error.inj hfault), nofun⟩

theorem keeps_sure (m : Drawing α) : Keeps (sure m) fun _ => True :=
  fun _ => ⟨nofun, fun _ _ => trivial⟩

theorem Keeps.bind {m : Guarded α} {f : α → Guarded β} (hm : m.Keeps P)
    (hf : ∀ x, P x → (f x).Keeps Q) : Keeps (m >>= f) Q := by
  intro d
  obtain ⟨hfault, hreturn⟩ := hm d
  cases hmd : m d with
  | mk r d' =>
    rw [hmd] at hfault hreturn
    cases r with
    | ok x =>
      rw [bind_of_ok hmd]
      exact hf x (hreturn x rfl) d'
    | error fault =>
      rw [bind_of_error hmd]
      exact ⟨fun h => hfault (congrArg Except.error (Except.error.inj h)), nofun⟩

end Keeps

end Guarded

open Guarded (Keeps keeps_pure keeps_throw keeps_sure)

/-! ## Lists of failures -/

theorem founded_ok (w : Value) : Founded (.ok w) := nofun

theorem founded_error_iff {es : List Failure} : Founded (.error es) ↔ es ≠ [] := by
  rw [Founded, Ne, Except.error.injEq]

theorem founded_single (e : Failure) : Founded (.error [e]) := nofun

theorem keeps_collected {es : List Failure} (h : es ≠ []) : (collected es).Keeps (· ≠ []) := by
  cases es with
  | nil => exact absurd rfl h
  | cons e rest => exact keeps_pure h

theorem keeps_prefixed (s : Segment) {es : List Failure} (h : es ≠ []) :
    (prefixed s es).Keeps (· ≠ []) :=
  keeps_collected fun hmap => h (List.map_eq_nil_iff.mp hmap)

theorem keeps_finished (whole : Value) (failures : List Failure) :
    (finished whole failures).Keeps Founded := by
  unfold finished
  split
  · exact keeps_pure (founded_ok whole)
  · next hsome =>
    have hfailures : failures ≠ [] := fun h => hsome (by rw [h]; rfl)
    exact (keeps_collected hfailures).bind fun _ hes => keeps_pure (founded_error_iff.mpr hes)

/-- What follows on a gauge: the rejection of a value is one failure. -/
theorem keeps_letIn {letIn : Guarded Bool} {m : Guarded Report}
    (hletIn : letIn.Keeps fun _ => True) (hm : m.Keeps Founded) (e : Failure) :
    Keeps (do if ← letIn then m else return .error [e]) Founded := by
  refine hletIn.bind fun passes _ => ?_
  cases passes with
  | true => exact hm
  | false => exact keeps_pure (founded_single e)

section Parts
variable {ι α : Type} {segment : ι → Segment} {add : ι → Value → List α → List α}
  {whole : List α → Value} {o : Options}

theorem keeps_executeParts {parts : List (ι × Guarded Report)}
    (h : ∀ p ∈ parts, p.2.Keeps Founded) (outputs : List α) (failures : List Failure) :
    (executeParts segment add whole o parts outputs failures).Keeps Founded := by
  induction parts generalizing outputs failures with
  | nil => exact keeps_finished (whole outputs) failures
  | cons part rest ih =>
    obtain ⟨i, execute⟩ := part
    obtain ⟨hexecute, hrest⟩ := List.forall_mem_cons.mp h
    rw [executeParts]
    refine hexecute.bind fun r hr => ?_
    cases r with
    | ok w => exact ih hrest _ _
    | error es =>
      refine (keeps_prefixed (segment i) (founded_error_iff.mp hr)).bind fun es hes => ?_
      split
      · exact keeps_pure (founded_error_iff.mpr hes)
      · exact ih hrest _ _

end Parts

/-! ## Everything that is executed -/

-- one theorem for each function of the execution, with the same recursion
mutual

/-- **No assembly fails without failures**, and none stops for want of them. -/
theorem Assembly.keeps_execute : ∀ (a : Assembly) (v : Value) (o : Options),
    (a.execute v o).Keeps Founded
  | .node frame kind test label steps, v, o => by
    rw [Assembly.execute]
    refine (keeps_sure _).bind fun inputs _ => ?_
    refine (Frame.keeps_base frame kind label (Probe.keeps_holds test inputs.2) inputs.2 o).bind ?_
    exact fun r hr => keeps_actAll steps inputs.1 o hr

theorem Frame.keeps_base : ∀ (frame : Frame) (kind : String) (label : Label)
    {letIn : Guarded Bool}, letIn.Keeps (fun _ => True) → ∀ (v : Value) (o : Options),
    (frame.base kind label letIn v o).Keeps Founded
  | .union candidates, kind, label, letIn, hletIn, v, o => by
    rw [Frame.base]
    refine (keeps_firstExecuting candidates v o).bind fun found _ => ?_
    cases found with
    | some w => exact keeps_pure (founded_ok w)
    | none => exact keeps_pure (founded_single _)
  | .object fields, kind, label, _, hletIn, v, o => by
    cases v with
    | object members =>
      exact keeps_letIn hletIn (keeps_executeParts (keeps_fieldExecutions fields members o) _ _) _
    | _ => exact keeps_letIn hletIn (keeps_throw .strayFields nofun) _
  | .array element, kind, label, _, hletIn, v, o => by
    cases v with
    | array items =>
      refine keeps_letIn hletIn (keeps_executeParts (fun p hp => ?_) _ _) _
      obtain ⟨q, -, rfl⟩ := List.mem_map.mp hp
      exact Assembly.keeps_execute element q.1 o
    | _ => exact keeps_letIn hletIn (keeps_throw .strayItems nofun) _
  | .leaf, _, _, _, hletIn, v, _ => keeps_letIn hletIn (keeps_pure (founded_ok v)) _
  | .enumeration _, _, _, _, hletIn, v, _ => keeps_letIn hletIn (keeps_pure (founded_ok v)) _
  | .literal _, _, _, _, hletIn, v, _ => keeps_letIn hletIn (keeps_pure (founded_ok v)) _

theorem keeps_fieldExecutions : ∀ (fields : List (String × Assembly)) (members : Entries Value)
    (o : Options), ∀ p ∈ fieldExecutions fields members o, p.2.Keeps Founded
  | [], _, _ => fun _ hp => absurd hp List.not_mem_nil
  | (name, a) :: rest, members, o => by
    rw [fieldExecutions]
    exact List.forall_mem_cons.mpr
      ⟨Assembly.keeps_execute a _ o, keeps_fieldExecutions rest members o⟩

theorem keeps_firstExecuting : ∀ (candidates : List Assembly) (v : Value) (o : Options),
    (firstExecuting candidates v o).Keeps fun _ => True
  | [], _, _ => keeps_pure trivial
  | a :: rest, v, o => by
    rw [firstExecuting]
    refine (Assembly.keeps_execute a v o).bind fun r _ => ?_
    cases r with
    | ok w => exact keeps_pure trivial
    | error es => exact keeps_firstExecuting rest v o

theorem keeps_actAll : ∀ (steps : List Fitting) (inputs : List Value) (o : Options) {r : Report},
    Founded r → (actAll steps inputs o r).Keeps Founded
  | [], _, _, _, hr => keeps_pure hr
  | _ :: _, [], _, _, hr => keeps_pure hr
  | step :: rest, input :: inputs, o, r, hr => by
    rw [actAll]
    exact (Fitting.keeps_act step input o hr).bind fun r' hr' => keeps_actAll rest inputs o hr'

theorem Fitting.keeps_act : ∀ (step : Fitting) (v : Value) (o : Options) {r : Report},
    Founded r → (step.act v o r).Keeps Founded
  | .transform f, _, _, .ok w, _ => keeps_pure (founded_ok (f w))
  | .transform _, _, _, .error _, hr => keeps_pure hr
  | .default _, _, _, r, hr => by cases r <;> exact keeps_pure hr
  | .preprocess _, _, _, r, hr => by cases r <;> exact keeps_pure hr
  | .pipe next, _, o, .ok w, _ => Assembly.keeps_execute next w o
  | .pipe _, _, _, .error _, hr => keeps_pure hr
  | .refine test _ _, _, _, .ok w, _ =>
    keeps_letIn (Probe.keeps_holds test w) (keeps_pure (founded_ok w)) _
  | .refine _ _ _, _, _, .error _, hr => keeps_pure hr
  -- the rescues look at the input of the layer too
  | .optional, v, _, r, hr | .nullable, v, _, r, hr | .nullish, v, _, r, hr => by
    cases r <;> cases v <;> first | exact keeps_pure hr | exact keeps_pure (founded_ok _)

theorem Probe.keeps_holds : ∀ (test : Probe) (v : Value), (test.holds v).Keeps fun _ => True
  | .condition p, v => keeps_pure trivial
  | .accepted candidates, v => by
    rw [Probe.holds]
    exact (keeps_firstExecuting candidates v {}).bind fun _ _ => keeps_pure trivial
  | .not test, v => by
    rw [Probe.holds]
    exact (Probe.keeps_holds test v).bind fun _ _ => keeps_pure trivial

end

/-! ## Wholes that succeed -/

/-- The computations, each from the draws that the one before it left, all return an output. -/
inductive Guarded.InTurn : List (Guarded Report) → Draws → List Value → Draws → Prop
  | nil (d : Draws) : InTurn [] d [] d
  | cons {m : Guarded Report} {ms : List (Guarded Report)} {w : Value} {ws : List Value}
      {d d' d'' : Draws} :
      m d = (.ok (.ok w), d') → InTurn ms d' ws d'' → InTurn (m :: ms) d (w :: ws) d''

open Guarded (InTurn)

section Wholes
variable {ι α : Type} {segment : ι → Segment} {add : ι → Value → List α → List α}
  {whole : List α → Value} {o : Options}

theorem prefixed_cons (s : Segment) (e : Failure) (es : List Failure) :
    prefixed s (e :: es) = pure ((e :: es).map (Failure.under s)) := rfl

/-- Nothing is lost: when a whole succeeds, no failure was collected before and all its parts
succeed. -/
theorem inTurn_of_executeParts {parts : List (ι × Guarded Report)} {outputs : List α}
    {failures : List Failure} {d d' : Draws} {w : Value}
    (h : executeParts segment add whole o parts outputs failures d = (.ok (.ok w), d')) :
    failures = [] ∧ ∃ ws, InTurn (parts.map Prod.snd) d ws d' := by
  induction parts generalizing outputs failures d with
  | nil =>
    cases failures with
    | nil =>
      obtain rfl : d = d' := (Prod.mk.inj h).2
      exact ⟨rfl, [], .nil d⟩
    | cons e es => cases (Prod.mk.inj h).1
  | cons part rest ih =>
    obtain ⟨i, execute⟩ := part
    rw [executeParts] at h
    cases hexecute : execute d with
    | mk r d₁ =>
      cases r with
      | error fault =>
        rw [Guarded.bind_of_error hexecute] at h
        cases (Prod.mk.inj h).1
      | ok report =>
        rw [Guarded.bind_of_ok hexecute] at h
        cases report with
        | ok x =>
          obtain ⟨hfailures, ws, hturn⟩ := ih h
          exact ⟨hfailures, x :: ws, .cons hexecute hturn⟩
        | error es =>
          cases es with
          | nil => cases (Prod.mk.inj h).1
          | cons e es =>
            -- the failure is returned, or it is among those that the rest starts from
            simp only [prefixed_cons, pure_bind] at h
            split at h
            · cases (Prod.mk.inj h).1
            · cases (List.append_eq_nil_iff.mp (ih h).1).2

end Wholes

namespace Assembly

section Base
variable {a : Assembly} {v : Value} {o : Options}

theorem Fits.base_object (h : a.Fits) {fields : List (String × Assembly)}
    (hframe : a.frame = .object fields) (members : Entries Value) :
    a.base (.object members) o = executeParts .field addMember Value.object o
      (fieldExecutions fields members o) [] [] := by
  obtain ⟨hgauge, -⟩ := h.takes_of_frame hframe
  rw [base, letsIn, hframe, hgauge]
  rfl

theorem Fits.base_array (h : a.Fits) {element : Assembly} (hframe : a.frame = .array element)
    (items : List Value) :
    a.base (.array items) o = executeParts .index (fun _ w ws => ws ++ [w]) Value.array o
      (items.zipIdx.map fun p => (p.2, element.execute p.1 o)) [] [] := by
  have hgauge : a.gauge = .array := h.takes_of_frame hframe
  rw [base, letsIn, hframe, hgauge]
  rfl

end Base

section Parse
variable {a : Assembly} {v : Value} {o : Options} {d : Draws}

theorem parse_of_ok {w : Value} (h : (a.execute v o d).1 = .ok (.ok w)) :
    (a.parse o v d).1 = .ok (.ok w) := by
  rw [parse, Guarded.bind_of_ok (Prod.ext h rfl)]
  rfl

/-- The first failure is returned, so that nothing has to stand in for it. -/
theorem parse_of_error {e : Failure} {rest : List Failure}
    (h : (a.execute v o d).1 = .ok (.error (e :: rest))) :
    (a.parse o v d).1 = .ok (.error e) := by
  rw [parse, Guarded.bind_of_ok (Prod.ext h rfl)]
  rfl

theorem parse_iff {r : Report} (h : (a.execute v o d).1 = .ok r) (hr : Founded r) :
    (∀ w, (a.parse o v d).1 = .ok (.ok w) ↔ r = .ok w) ∧
      ∀ e, (a.parse o v d).1 = .ok (.error e) ↔ ∃ rest, r = .error (e :: rest) := by
  cases r with
  | ok x =>
    rw [parse_of_ok h]
    simp
  | error es =>
    cases es with
    | nil => exact absurd rfl hr
    | cons e rest =>
      rw [parse_of_error h]
      simp

/-- The parse for the first failure is the one of the schema, in which failures are never empty. -/
theorem Executes.parse_eq (h : a.Executes) :
    (a.parse o v d).1 = .ok (a.schema.parse o v d).1 := by
  have hexecute := congrArg Prod.fst (h.apply v o d)
  rw [Schema.parse, Drawing.bind_apply]
  cases hrun : (a.schema.run v o d).1 with
  | ok w =>
    rw [hrun] at hexecute
    exact parse_of_ok hexecute
  | error es =>
    rw [hrun] at hexecute
    exact parse_of_error hexecute

end Parse

section Composites
variable {a : Assembly} {o : Options} {d : Draws} {w : Value}

theorem Fits.fields_in_turn (h : a.Fits) {fields : List (String × Assembly)}
    (hframe : a.frame = .object fields) {members : Entries Value}
    (hbase : (a.base (.object members) o d).1 = .ok (.ok w)) :
    ∃ ws d', InTurn ((fieldExecutions fields members o).map Prod.snd) d ws d' := by
  rw [h.base_object hframe] at hbase
  obtain ⟨-, ws, hturn⟩ := inTurn_of_executeParts (Prod.ext hbase rfl)
  exact ⟨ws, _, hturn⟩

theorem Fits.items_in_turn (h : a.Fits) {element : Assembly} (hframe : a.frame = .array element)
    {items : List Value} (hbase : (a.base (.array items) o d).1 = .ok (.ok w)) :
    ∃ ws d', InTurn (items.map fun x => element.execute x o) d ws d' := by
  rw [h.base_array hframe] at hbase
  obtain ⟨-, ws, hturn⟩ := inTurn_of_executeParts (Prod.ext hbase rfl)
  have hitems : (items.zipIdx.map fun p => (p.2, element.execute p.1 o)).map Prod.snd =
      (items.zipIdx.map Prod.fst).map fun x => element.execute x o := by
    rw [List.map_map, List.map_map]
    rfl
  rw [hitems, List.zipIdx_map_fst] at hturn
  exact ⟨ws, _, hturn⟩

end Composites

/-- **Whoever fails has failures.**  Execution never comes to report a failure without any: it
returns what the parse returns, an output or at least one failure.

* It returns an output when the parse for the first failure does.
* That parse fails otherwise, and then by the first failure of the list; nothing ever stands in
  for it.
* An object or a sequence is accepted only when all its fields or items are, one after the other. -/
theorem failures_reported {a : Assembly} (h : Obtainable a) (o : Options) (v : Value) (d : Draws) :
    (∃ r, (a.execute v o d).1 = .ok r ∧ r ≠ .error [] ∧
      r = (a.schema.safeParse o v d).1.report ∧
      (a.parse o v d).1 = .ok (a.schema.parse o v d).1 ∧
      (∀ w, (a.parse o v d).1 = .ok (.ok w) ↔ r = .ok w) ∧
      ∀ e, (a.parse o v d).1 = .ok (.error e) ↔ ∃ rest, r = .error (e :: rest)) ∧
    (∀ fields members w, a.frame = .object fields →
      (a.base (.object members) o d).1 = .ok (.ok w) →
      ∃ ws d', InTurn ((fieldExecutions fields members o).map Prod.snd) d ws d') ∧
    ∀ element items w, a.frame = .array element →
      (a.base (.array items) o d).1 = .ok (.ok w) →
      ∃ ws d', InTurn (items.map fun x => element.execute x o) d ws d' := by
  have hexecute := h.fits.agrees.unbroken v o d
  have hfounded : Founded (a.schema.safeParse o v d).1.report :=
    (keeps_execute a v o d).2 _ hexecute
  exact ⟨⟨_, hexecute, hfounded, rfl, h.fits.executes.parse_eq, parse_iff hexecute hfounded⟩,
    fun _ _ _ hframe hbase => h.fits.fields_in_turn hframe hbase,
    fun _ _ _ hframe hbase => h.fits.items_in_turn hframe hbase⟩

/-- Two texts where numbers are wanted, in a sequence in an object, and all failures collected. -/
theorem failures_reported_of_nested :
    let number := leaf ⟨"number", .condition (Condition.number fun _ => true)⟩ {}
    let a := object [("sizes", array number {})] {}
    let v : Value := .object [("sizes", .array [.text "x", .text "y"])]
    Obtainable a ∧ (∃ e f, (a.execute v .collectAll []).1 = .ok (.error [e, f])) ∧
      ∃ e, (a.parse .collectAll v []).1 = .ok (.error e) := by
  intro number a v
  have hnumber : Obtainable number := .leaf _ {} (by simp [Probe.parts])
  have ha : Obtainable a := .object _ {} (by simpa using Obtainable.array {} hnumber)
  have hexecute : ∃ e f, (a.execute v .collectAll []).1 = .ok (.error [e, f]) := ⟨_, _, rfl⟩
  obtain ⟨⟨r, hr, -, -, -, -, hparse⟩, -, -⟩ := failures_reported ha .collectAll v []
  obtain ⟨e, f, hef⟩ := hexecute
  have hreport : r = .error [e, f] := Except.ok.inj (hr.symm.trans hef)
  exact ⟨ha, ⟨e, f, hef⟩, e, (hparse e).mpr ⟨[f], hreport⟩⟩

end Assembly

end SchemaEngine
