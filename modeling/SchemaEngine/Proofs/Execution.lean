import SchemaEngine.Proofs.Assembly
import SchemaEngine.Proofs.Composites

/-!
# Execution of assemblies

An assembly is executed with nothing taken for granted.  The gauge lets a value in, and then the
frame takes it apart, whatever it is; failures travel in lists that could be empty, and a whole
succeeds when its list of failures is empty.  Three things would go wrong unnoticed or break the
parse off, and execution stops at each of them with a `Fault`: a value that is no object is taken
apart into fields, a value that is no sequence is taken apart into items, and failures are to be
reported when there are none.

For assemblies in which frames and gauges fit, none of this happens: execution is the parse with
the schema that the assembly comes to (`Assembly.Fits.executes`).  The proof follows the data.
What is shown of lists of parts and of steps is shown for parts that are executed as their
schemas parse (`Assembly.Executes`), and the last step is the induction over fitting assemblies.
-/

namespace SchemaEngine

/-- Where execution stops. -/
inductive Fault where
  /-- A value that is no object is taken apart into fields. -/
  | strayFields
  /-- A value that is no sequence is taken apart into items. -/
  | strayItems
  /-- Failures are to be reported, and there are none. -/
  | noFailure
deriving DecidableEq

/-- A computation that can draw from sources and can stop. -/
abbrev Guarded (α : Type) := ExceptT Fault Drawing α

/-- What execution returns: the output, or failures, of which it is not known that there are
any. -/
abbrev Report := Except (List Failure) Value

/-! ## Failures in lists -/

/-- Failures that are to be reported. -/
def collected : List Failure → Guarded (List Failure)
  | [] => throw .noFailure
  | es => pure es

/-- The failures as the enclosing value sees them. -/
def prefixed (s : Segment) (es : List Failure) : Guarded (List Failure) :=
  collected (es.map (Failure.under s))

/-- The whole, unless a part failed. -/
def finished (whole : Value) (failures : List Failure) : Guarded Report := do
  if failures.isEmpty then return .ok whole else return .error (← collected failures)

section Parts
variable {ι α : Type}

/-- Executes parts, each known by a name or an index, one after the other.  `add` puts the
output of a part behind what the parts before it gave. -/
def executeParts (segment : ι → Segment) (add : ι → Value → List α → List α)
    (whole : List α → Value) (o : Options) :
    List (ι × Guarded Report) → List α → List Failure → Guarded Report
  | [], outputs, failures => finished (whole outputs) failures
  | (i, execute) :: rest, outputs, failures => do
    match ← execute with
    | .ok w => executeParts segment add whole o rest (add i w outputs) failures
    | .error es =>
      let es ← prefixed (segment i) es
      if o.abortEarly then return .error es
      else executeParts segment add whole o rest outputs (failures ++ es)

end Parts

/-- A member is put behind the others, unless it is absent. -/
def addMember (name : String) (w : Value) (ws : Entries Value) : Entries Value :=
  if w.isUndefined then ws else ws.put name w

/-! ## What is said of a rejection -/

mutual

/-- A short text that says what an assembly accepts. -/
def Assembly.signature : Assembly → String
  | .node frame kind _ label _ => label.name.getD (frame.signature kind)

/-- A short text that says what a frame takes apart, given the kind beside it. -/
def Frame.signature : Frame → String → String
  | .leaf, kind => kind
  | .object _, kind => kind
  | .array element, _ => "array<" ++ element.signature ++ ">"
  | .enumeration values, _ => (Shape.enumeration values).signature
  | .literal value, _ => (Shape.literal value).signature
  | .union candidates, _ => "union<" ++ Text.joined " | " (assemblySignatures candidates) ++ ">"

/-- The signatures of a list of assemblies. -/
def assemblySignatures : List Assembly → List String
  | [] => []
  | a :: rest => a.signature :: assemblySignatures rest

end

/-- A schema of which no more is known than its kind and its signature. -/
def Schema.known (kind signature : String) : Schema :=
  leaf ⟨kind, .condition fun _ => true⟩ { name := some signature }

/-- What a node says of a value that its gauge does not let in. -/
def Frame.rejection (frame : Frame) (kind : String) (label : Label) (v : Value) : Failure :=
  match frame with
  | .enumeration values => .typeMismatch (.enumeration values) label v
  | .literal value => .typeMismatch (.literal value) label v
  | _ =>
    let known := Schema.known kind (label.name.getD (frame.signature kind))
    .typeMismatch known.shape { label with name := known.label.name } v

/-- What a union says of a value that no candidate accepts. -/
def unionRejection (candidates : List Assembly) (label : Label) (v : Value) : Failure :=
  .noMatch ((assemblySignatures candidates).map fun signature => .known "" signature) label v

/-! ## Execution -/

/-- A computation that does not stop. -/
def sure {α : Type} (m : Drawing α) : Guarded α := liftM m

mutual

/-- Executes an assembly on a value. -/
def Assembly.execute : Assembly → Value → Options → Guarded Report
  | .node frame kind test label steps, v, o => do
    let (inputs, input) ← sure (layerInputs (fittedSteps steps) v)
    actAll steps inputs o (← frame.base kind label (test.holds input) input o)

/-- What a frame makes of a value before any step.  `letIn` says whether the gauge lets the value
in; a union does not ask. -/
def Frame.base : Frame → String → Label → Guarded Bool → Value → Options → Guarded Report
  | .union candidates, _, label, _, v, o => do
    match ← firstExecuting candidates v o with
    | some w => return .ok w
    | none => return .error [unionRejection candidates label v]
  | .object fields, kind, label, letIn, v, o => do
    if ← letIn then
      match v with
      | .object members =>
        executeParts .field addMember Value.object o (fieldExecutions fields members o) [] []
      | _ => throw .strayFields
    else return .error [(Frame.object fields).rejection kind label v]
  | .array element, kind, label, letIn, v, o => do
    if ← letIn then
      match v with
      | .array items =>
        executeParts .index (fun _ w ws => ws ++ [w]) Value.array o
          (items.zipIdx.map fun p => (p.2, element.execute p.1 o)) [] []
      | _ => throw .strayItems
    else return .error [(Frame.array element).rejection kind label v]
  | frame, kind, label, letIn, v, _ => do
    if ← letIn then return .ok v else return .error [frame.rejection kind label v]

/-- The executions of fields; a field that the object lacks is undefined. -/
def fieldExecutions : List (String × Assembly) → Entries Value → Options →
    List (String × Guarded Report)
  | [], _, _ => []
  | (name, a) :: rest, members, o =>
    (name, a.execute ((members.find? name).getD .undefined) o) :: fieldExecutions rest members o

/-- The output of the first assembly that accepts a value. -/
def firstExecuting : List Assembly → Value → Options → Guarded (Option Value)
  | [], _, _ => pure none
  | a :: rest, v, o => do
    match ← a.execute v o with
    | .ok w => return some w
    | .error _ => firstExecuting rest v o

/-- Lets the steps act on a result, each in view of the input of its layer. -/
def actAll : List Fitting → List Value → Options → Report → Guarded Report
  | step :: rest, input :: inputs, o, r => do actAll rest inputs o (← step.act input o r)
  | _, _, _, r => pure r

/-- Lets one step act on the result of the layer below it. -/
def Fitting.act : Fitting → Value → Options → Report → Guarded Report
  | .optional, .undefined, _, .error _ => pure (.ok .undefined)
  | .nullable, .null, _, .error _ => pure (.ok .null)
  | .nullish, .undefined, _, .error _ => pure (.ok .undefined)
  | .nullish, .null, _, .error _ => pure (.ok .null)
  | .transform f, _, _, .ok w => pure (.ok (f w))
  | .pipe next, _, o, .ok w => next.execute w o
  | .refine test message subject, input, _, .ok w => do
    if ← test.holds w then return .ok w
    else
      let shown := match subject with
        | .input => input
        | .output => w
      return .error [.refinement message shown w]
  | _, _, _, r => pure r

/-- Whether a value passes a test. -/
def Probe.holds : Probe → Value → Guarded Bool
  | .condition p, v => pure (p v)
  | .accepted candidates, v => do return (← firstExecuting candidates v {}).isSome
  | .not test, v => do return !(← test.holds v)

end

namespace Assembly

/-- Whether the gauge of a node lets a value in. -/
def letsIn (a : Assembly) (v : Value) : Guarded Bool := a.gauge.test.holds v

/-- What a node makes of a value before any step. -/
def base (a : Assembly) (v : Value) (o : Options) : Guarded Report :=
  a.frame.base a.gauge.kind a.label (a.letsIn v) v o

/-- What stands in for the first failure if there is none. -/
def unreported : Failure := .because "parse failed without a reported error"

/-- Executes an assembly and returns the first failure. -/
def parse (a : Assembly) (o : Options) (v : Value) : Guarded (Except Failure Value) := do
  match ← a.execute v o with
  | .ok w => return .ok w
  | .error es => return .error (es.head?.getD unreported)

end Assembly

/-! ## Computations that can stop -/

namespace Guarded
variable {α β : Type} {m : Guarded α} {d d' : Draws}

/-- A computation that returned goes on with what it returned. -/
theorem bind_of_ok {x : α} (h : m d = (.ok x, d')) (f : α → Guarded β) :
    (m >>= f) d = f x d' := by
  have hbind : (m >>= f) d = ExceptT.bindCont f (m d).1 (m d).2 := rfl
  rw [hbind, h]
  rfl

/-- A computation that stopped does not go on. -/
theorem bind_of_error {fault : Fault} (h : m d = (.error fault, d')) (f : α → Guarded β) :
    (m >>= f) d = (.error fault, d') := by
  have hbind : (m >>= f) d = ExceptT.bindCont f (m d).1 (m d).2 := rfl
  rw [hbind, h]
  rfl

end Guarded

/-! ## Computations that do not stop -/

/-- What a parse returns, with the failures as a list. -/
def Outcome.report (r : Outcome) : Report := r.mapError Failures.toList

section Sure
variable {α β : Type}

theorem sure_pure (x : α) : sure (pure x) = pure x := liftM_pure x

theorem sure_bind (m : Drawing α) (f : α → Drawing β) :
    sure (m >>= f) = sure m >>= fun x => sure (f x) := liftM_bind m f

theorem bind_report (m : Drawing Outcome) (f : Report → Guarded β) :
    sure (Outcome.report <$> m) >>= f = sure m >>= fun r => f r.report := by
  rw [map_eq_pure_bind, sure_bind, bind_assoc]
  simp only [sure_pure, pure_bind]

end Sure

/-- The assembly is executed as its schema parses. -/
def Assembly.Executes (a : Assembly) : Prop :=
  ∀ v o, a.execute v o = sure (Outcome.report <$> a.schema.run v o)

/-! ## Parts -/

theorem prefixed_toList (s : Segment) (es : Failures) :
    prefixed s es.toList = pure (es.under s).toList := rfl

section Parts
variable {ι α : Type} {segment : ι → Segment} {add place : ι → Value → List α → List α}
  {whole : List α → Value} {o : Options}

theorem finished_eq (outputs : List α) (failures : List Failure) :
    finished (whole outputs) failures =
      pure (Gathered.outcome whole ⟨outputs, failures⟩).report := by
  cases failures <;> rfl

/-- Outputs can be put together from either end: what is put behind the earlier outputs is what
would be put before the later ones, for parts that are new to the earlier outputs. -/
structure EitherEnd (New : ι → List α → Prop) (add place : ι → Value → List α → List α) : Prop where
  append : ∀ {i w outputs xs}, New i outputs → add i w outputs ++ xs = outputs ++ place i w xs
  new : ∀ {i j w outputs}, i ≠ j → New j outputs → New j (add i w outputs)

/-- Executing parts is gathering them.  When the parse ends with the first failure, there are no
earlier ones. -/
theorem executeParts_eq {New : ι → List α → Prop} (hends : EitherEnd New add place)
    {parts : List (ι × Drawing Outcome)} (hparts : (parts.map Prod.fst).Nodup)
    {outputs : List α} (houtputs : ∀ i ∈ parts.map Prod.fst, New i outputs)
    {failures : List Failure} (hfailures : o.abortEarly = true → failures = []) :
    executeParts segment add whole o (parts.map fun p => (p.1, sure (Outcome.report <$> p.2)))
        outputs failures =
      sure (do
        let g ← gatherParts segment place o parts
        return (Gathered.outcome whole ⟨outputs ++ g.outputs, failures ++ g.failures⟩).report) := by
  induction parts generalizing outputs failures with
  | nil =>
    rw [List.map_nil, executeParts, finished_eq, gatherParts, pure_bind, sure_pure, Gathered.none,
      List.append_nil, List.append_nil]
  | cons part rest ih =>
    obtain ⟨i, parse⟩ := part
    obtain ⟨hi, hrest⟩ := List.nodup_cons.mp hparts
    obtain ⟨hiNew, houtputs⟩ := List.forall_mem_cons.mp houtputs
    simp only [List.map_cons, executeParts, gatherParts, bind_report, bind_assoc, sure_bind]
    refine bind_congr fun r => ?_
    cases r with
    | ok w =>
      have hlater : ∀ j ∈ rest.map Prod.fst, New j (add i w outputs) :=
        fun j hj => hends.new (fun hij => hi (hij ▸ hj)) (houtputs j hj)
      refine (ih hrest hlater hfailures).trans ?_
      simp only [hends.append hiNew, sure_bind, bind_assoc, pure_bind, sure_pure]
    | error es =>
      have hreport : Outcome.report (.error es) = .error es.toList := rfl
      simp only [hreport, prefixed_toList, pure_bind]
      by_cases ho : o.abortEarly = true
      · obtain rfl := hfailures ho
        simp only [if_pos ho, pure_bind, sure_pure, Gathered.reject, Gathered.none,
          List.append_nil, List.nil_append]
        rfl
      · simp only [if_neg ho]
        refine (ih hrest houtputs fun h => absurd h ho).trans ?_
        simp only [Gathered.reject, List.append_assoc, sure_bind, bind_assoc, pure_bind, sure_pure]

theorem eitherEnd_members :
    EitherEnd (fun name ws => name ∉ Entries.names ws) addMember placeMember where
  append {name w ws xs} hnew := by
    unfold addMember placeMember
    split
    · rfl
    · rw [Entries.put_of_new hnew, List.append_assoc, List.singleton_append]
  new {name other w ws} hne hnew := by
    unfold addMember
    split
    · exact hnew
    · rw [Entries.names_put]
      split
      · exact hnew
      · intro hm
        exact (List.mem_append.mp hm).elim hnew fun hm => hne (List.mem_singleton.mp hm).symm

theorem eitherEnd_items :
    EitherEnd (fun (_ : Nat) (_ : List Value) => True) (fun _ w ws => ws ++ [w])
      (fun _ w ws => w :: ws) where
  append _ := List.append_assoc _ _ _
  new _ _ := trivial

theorem executeParts_fields {parts : List (String × Drawing Outcome)}
    (hparts : (parts.map Prod.fst).Nodup) :
    executeParts .field addMember Value.object o
        (parts.map fun p => (p.1, sure (Outcome.report <$> p.2))) [] [] =
      sure (do
        let g ← gatherParts .field placeMember o parts
        return (g.outcome Value.object).report) :=
  executeParts_eq eitherEnd_members hparts (fun _ _ => List.not_mem_nil) fun _ => rfl

theorem executeParts_items (parse : Value → Drawing Outcome) (items : List Value) :
    executeParts .index (fun _ w ws => ws ++ [w]) Value.array o
        (items.zipIdx.map fun p => (p.2, sure (Outcome.report <$> parse p.1))) [] [] =
      sure (do return ((← gatherItems parse o 0 items).outcome Value.array).report) := by
  have hindices : ((items.zipIdx.map fun p => (p.2, parse p.1)).map Prod.fst).Nodup := by
    have hsnd : (items.zipIdx.map fun p => (p.2, parse p.1)).map Prod.fst =
        items.zipIdx.map Prod.snd := List.map_map
    rw [hsnd, List.zipIdx_map_snd]
    exact List.nodup_range'
  have hexecutions : (items.zipIdx.map fun p => (p.2, sure (Outcome.report <$> parse p.1))) =
      (items.zipIdx.map fun p => (p.2, parse p.1)).map
        fun p => (p.1, sure (Outcome.report <$> p.2)) := by
    rw [List.map_map]
    rfl
  rw [hexecutions, gatherItems_eq_gatherParts]
  exact executeParts_eq eitherEnd_items hindices (fun _ _ => trivial) fun _ => rfl

end Parts

/-! ## Rejections -/

theorem signatures_eq_map (candidates : List Schema) :
    signatures candidates = candidates.map Schema.signature := by
  induction candidates with
  | nil => rfl
  | cons s rest ih => rw [signatures, ih, List.map_cons]

theorem assemblySignatures_eq {candidates : List Assembly}
    (h : ∀ t ∈ candidates, t.signature = t.schema.signature) :
    assemblySignatures candidates = signatures (schemas candidates) := by
  induction candidates with
  | nil => rfl
  | cons a rest ih =>
    obtain ⟨ha, hrest⟩ := List.forall_mem_cons.mp h
    simp only [assemblySignatures, schemas, signatures, ha, ih hrest]

/-- A frame says the same with the kind of its gauge as the shape does on its own. -/
theorem Frame.Takes.signature_eq {frame : Frame} {gauge : Gauge} (h : frame.Takes gauge)
    (hparts : ∀ t ∈ frame.parts, t.signature = t.schema.signature) (test : Test) :
    frame.signature gauge.kind = (frame.shape gauge.kind test).signature := by
  cases frame with
  | leaf => rfl
  | object fields =>
    obtain ⟨rfl, -⟩ := h
    rfl
  | array element =>
    simp only [signature, shape, Shape.signature, hparts element (List.mem_singleton.mpr rfl)]
  | enumeration values => rfl
  | literal value => rfl
  | union candidates =>
    have hcandidates : ∀ t ∈ candidates, t.signature = t.schema.signature := hparts
    simp only [signature, shape, Shape.signature, assemblySignatures_eq hcandidates]

theorem Assembly.Fits.signature_eq {a : Assembly} (h : a.Fits) :
    a.signature = a.schema.signature := by
  induction h with
  | @intro a htakes _ ih =>
    obtain ⟨frame, kind, test, label, steps⟩ := a
    have htakes : frame.Takes ⟨kind, test⟩ := htakes
    have hframe : ∀ t ∈ frame.parts, t.signature = t.schema.signature :=
      fun t ht => ih t (by simp [ht])
    have hsignature : frame.signature kind = (frame.shape kind test.test).signature :=
      htakes.signature_eq hframe test.test
    simp only [signature, schema, Schema.signature, hsignature]

theorem Frame.Takes.rejection_eq {frame : Frame} {gauge : Gauge} (h : frame.Takes gauge)
    (hparts : ∀ t ∈ frame.parts, t.signature = t.schema.signature) (test : Test) (label : Label)
    (v : Value) :
    frame.rejection gauge.kind label v =
      .typeMismatch (frame.shape gauge.kind test) label v := by
  have hsignature := h.signature_eq hparts test
  cases frame with
  | leaf => rfl
  | object fields =>
    obtain ⟨rfl, -⟩ := h
    rfl
  | array element =>
    obtain rfl : gauge = .array := h
    simp only [rejection, hsignature]
    rfl
  | enumeration values => rfl
  | literal value => rfl
  | union candidates =>
    obtain rfl : gauge = .union candidates := h
    simp only [rejection, hsignature]
    rfl

theorem unionRejection_eq {candidates : List Assembly}
    (h : ∀ t ∈ candidates, t.signature = t.schema.signature) (label : Label) (v : Value) :
    unionRejection candidates label v = .noMatch (schemas candidates) label v := by
  have hempty : ((assemblySignatures candidates).map fun signature =>
      Schema.known "" signature).isEmpty = (schemas candidates).isEmpty := by
    cases candidates <;> rfl
  have hsignatures : signatures ((assemblySignatures candidates).map fun signature =>
      Schema.known "" signature) = signatures (schemas candidates) := by
    rw [signatures_eq_map, List.map_map, ← assemblySignatures_eq h]
    exact List.map_id _
  have hexpected : candidateSignatures ((assemblySignatures candidates).map fun signature =>
      Schema.known "" signature) = candidateSignatures (schemas candidates) := by
    rw [candidateSignatures, candidateSignatures, hempty, hsignatures]
  rw [unionRejection, Failure.noMatch, Failure.noMatch, hexpected]

/-! ## Execution is parsing -/

theorem firstExecuting_eq {candidates : List Assembly} (h : ∀ t ∈ candidates, t.Executes)
    (v : Value) (o : Options) :
    firstExecuting candidates v o = sure (firstAccepting (schemas candidates) v o) := by
  induction candidates with
  | nil => rfl
  | cons a rest ih =>
    obtain ⟨ha, hrest⟩ := List.forall_mem_cons.mp h
    simp only [firstExecuting, schemas, firstAccepting, ha v o, bind_report, sure_bind]
    refine bind_congr fun r => ?_
    cases r with
    | ok w => rfl
    | error es => exact ih hrest

theorem Probe.holds_eq : ∀ {test : Probe}, (∀ t ∈ test.parts, t.Executes) → ∀ v,
    test.holds v = sure (test.test.holds v)
  | .condition p, _, v => rfl
  | .accepted candidates, h, v => by
      have hcandidates : ∀ t ∈ candidates, t.Executes := h
      simp only [Probe.holds, Probe.test, Test.holds, firstExecuting_eq hcandidates, sure_bind,
        sure_pure]
  | .not test, h, v => by
      have htest : ∀ t ∈ test.parts, t.Executes := h
      simp only [Probe.holds, Probe.test, Test.holds, Probe.holds_eq htest, sure_bind, sure_pure]

theorem Fitting.act_eq {step : Fitting} (h : ∀ t ∈ step.parts, t.Executes) (v : Value)
    (o : Options) (r : Outcome) :
    step.act v o r.report = sure (Outcome.report <$> step.step.act v o r) := by
  cases step with
  | transform f => cases r <;> rfl
  | default fallback => cases r <;> rfl
  | preprocess f => cases r <;> rfl
  | pipe next =>
    cases r with
    | ok w => exact h next (List.mem_singleton.mpr rfl) w o
    | error es => rfl
  | refine test message subject =>
    cases r with
    | error es => rfl
    | ok w =>
      have htest : ∀ t ∈ test.parts, t.Executes := h
      have hreport : Outcome.report (.ok w) = .ok w := rfl
      simp only [hreport, act, step, Step.act, Probe.holds_eq htest, map_bind, sure_bind]
      refine bind_congr fun passes => ?_
      cases passes <;> rfl
  -- the three rescues look at the input of the layer too
  | optional => cases r <;> cases v <;> rfl
  | nullable => cases r <;> cases v <;> rfl
  | nullish => cases r <;> cases v <;> rfl

theorem actAll_eq {steps : List Fitting} (h : ∀ step ∈ steps, ∀ t ∈ step.parts, t.Executes)
    (inputs : List Value) (o : Options) (r : Outcome) :
    actAll steps inputs o r.report =
      sure (Outcome.report <$> outward (fittedSteps steps) inputs o r) := by
  induction steps generalizing inputs r with
  | nil => cases inputs <;> rfl
  | cons step rest ih =>
    obtain ⟨hstep, hrest⟩ := List.forall_mem_cons.mp h
    cases inputs with
    | nil => rfl
    | cons input inputs =>
      simp only [actAll, fittedSteps, outward, Fitting.act_eq hstep, map_bind, bind_report,
        sure_bind]
      exact bind_congr fun r' => ih hrest inputs r'

theorem fieldExecutions_eq {fields : List (String × Assembly)}
    (h : ∀ t ∈ fields.map Prod.snd, t.Executes) (members : Entries Value) (o : Options) :
    fieldExecutions fields members o =
      ((fieldSchemas fields).map fun p =>
        (p.1, p.2.run ((members.find? p.1).getD .undefined) o)).map
          fun p => (p.1, sure (Outcome.report <$> p.2)) := by
  induction fields with
  | nil => rfl
  | cons field rest ih =>
    obtain ⟨name, a⟩ := field
    obtain ⟨ha, hrest⟩ := List.forall_mem_cons.mp h
    simp only [fieldExecutions, fieldSchemas, List.map_cons, ih hrest, ha _ o]

theorem executeParts_fieldExecutions {fields : List (String × Assembly)}
    (h : ∀ t ∈ fields.map Prod.snd, t.Executes) (distinct : Entries.Distinct fields)
    (members : Entries Value) (o : Options) :
    executeParts .field addMember Value.object o (fieldExecutions fields members o) [] [] =
      sure (do
        let g ← gatherFields (fieldSchemas fields) members o
        return (g.outcome Value.object).report) := by
  have hnames : (((fieldSchemas fields).map fun p =>
      (p.1, p.2.run ((members.find? p.1).getD .undefined) o)).map Prod.fst).Nodup := by
    rw [fieldSchemas_eq_map, List.map_map, List.map_map]
    exact distinct
  rw [fieldExecutions_eq h, executeParts_fields hnames, gatherFields_eq_gatherParts]

theorem executeParts_itemExecutions {element : Assembly} (h : element.Executes)
    (items : List Value) (o : Options) :
    executeParts .index (fun _ w ws => ws ++ [w]) Value.array o
        (items.zipIdx.map fun p => (p.2, element.execute p.1 o)) [] [] =
      sure (do
        let g ← gatherItems (fun w => element.schema.run w o) o 0 items
        return (g.outcome Value.array).report) := by
  simp only [h _ o]
  exact executeParts_items (fun w => element.schema.run w o) items

/-- A node whose gauge goes with its frame makes of a value what the shape makes of it, before any
step. -/
theorem Frame.Takes.base_eq {frame : Frame} {kind : String} {test : Probe}
    (h : frame.Takes ⟨kind, test⟩) (hframe : ∀ t ∈ frame.parts, t.Executes)
    (htest : ∀ t ∈ test.parts, t.Executes)
    (hsignatures : ∀ t ∈ frame.parts, t.signature = t.schema.signature) (label : Label)
    (v : Value) (o : Options) :
    frame.base kind label (test.holds v) v o =
      sure (Outcome.report <$> (frame.shape kind test.test).base label v o) := by
  have hrejection : frame.rejection kind label v =
      .typeMismatch (frame.shape kind test.test) label v := h.rejection_eq hsignatures _ label v
  cases frame with
  | leaf =>
    simp only [base, hrejection, shape, Shape.base, Probe.holds_eq htest, map_bind, sure_bind]
    refine bind_congr fun passes => ?_
    cases passes <;> rfl
  | object fields =>
    obtain ⟨⟨⟩, distinct⟩ := h
    cases v with
    | object members =>
      have hexecute := executeParts_fieldExecutions hframe distinct members o
      simp only [base, Probe.holds, Value.members?, Option.isSome_some, pure_bind, if_true,
        hexecute, shape, Shape.base, map_bind, map_pure]
    | _ => simp only [base, hrejection]; rfl
  | array element =>
    obtain ⟨⟩ := h
    cases v with
    | array items =>
      have helement : element.Executes := hframe element (List.mem_singleton.mpr rfl)
      have hexecute := executeParts_itemExecutions helement items o
      simp only [base, Probe.holds, Condition.items, pure_bind, if_true, hexecute, shape,
        Shape.base, map_bind, map_pure]
    | _ => simp only [base, hrejection]; rfl
  | enumeration values =>
    obtain ⟨⟩ := h
    cases v with
    | text s =>
      simp only [base, hrejection, Probe.holds, Condition.text, pure_bind, shape, Shape.base]
      cases values.contains s <;> rfl
    | _ => simp only [base, hrejection]; rfl
  | literal value =>
    obtain ⟨⟩ := h
    simp only [base, hrejection, Probe.holds, pure_bind, shape, Shape.base]
    cases v.equals value <;> rfl
  | union candidates =>
    have hcandidates : ∀ t ∈ candidates, t.Executes := hframe
    have hsignatures : ∀ t ∈ candidates, t.signature = t.schema.signature := hsignatures
    simp only [base, shape, Shape.base, firstExecuting_eq hcandidates,
      unionRejection_eq hsignatures, map_bind, sure_bind]
    refine bind_congr fun found => ?_
    cases found <;> rfl

/-- **An assembly in which frames and gauges fit is executed as its schema parses**: nowhere does
execution stop, and it returns the output or the failures of the parse. -/
theorem Assembly.Fits.executes {a : Assembly} (h : a.Fits) : a.Executes := by
  induction h with
  | @intro a htakes hparts ih =>
    obtain ⟨frame, kind, test, label, steps⟩ := a
    have hframe : ∀ t ∈ frame.parts, t ∈ (node frame kind test label steps).parts :=
      fun t ht => by simp [ht]
    have htest : ∀ t ∈ test.parts, t.Executes := fun t ht => ih t (by simp [ht])
    have hsteps : ∀ step ∈ steps, ∀ t ∈ step.parts, t.Executes :=
      fun step hs t ht => ih t (by simpa using .inr (.inr ⟨step, hs, ht⟩))
    have htakes : frame.Takes ⟨kind, test⟩ := htakes
    intro v o
    simp only [execute, schema, Schema.run, map_bind, sure_bind]
    refine bind_congr fun inputs => ?_
    rw [htakes.base_eq (fun t ht => ih t (hframe t ht)) htest
      fun t ht => (hparts t (hframe t ht)).signature_eq, bind_report]
    exact bind_congr fun r => actAll_eq hsteps inputs.1 o r

/-- A gauge that lets in more than the frame is made for: execution stops. -/
example :
    ((Assembly.node (.array (.literal .null {})) "any" (.condition fun _ => true) {} []).execute
      .null {} []).1 = .error .strayItems := rfl

end SchemaEngine
