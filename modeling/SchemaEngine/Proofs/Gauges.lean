import SchemaEngine.Proofs.Execution

/-!
# What gauges let in

Whatever is done with the constructors, with steps and with hooks, the gauge of a node lets in
exactly what the frame is made for (`Assembly.frame_and_gauge_agree`): a frame of fields is
entered by objects only, a frame of items by sequences only, and the texts that an enumeration
lists in a rejection are the texts that it accepts.

All of this is read off one fact, that in an obtainable assembly every gauge is the one that goes
with its frame.  Only the gauge of a union takes an argument of its own: it executes the candidates
once more, one after the other, and lets a value in when one of them has an output.
-/

namespace SchemaEngine

namespace Assembly

/-- The gauge of the node lets a value in. -/
def Accepts (a : Assembly) (v : Value) (d : Draws) : Prop := (a.letsIn v d).1 = .ok true

/-- What is drawn when assemblies are executed one after the other, whatever they return. -/
def drawnBy : List Assembly → Value → Draws → Draws
  | [], _, d => d
  | a :: rest, v, d => drawnBy rest v (a.execute v {} d).2

/-- One of the assemblies has an output, from the draws that those before it left. -/
def SomeAccepts (candidates : List Assembly) (v : Value) (d : Draws) : Prop :=
  ∃ before a after w, candidates = before ++ a :: after ∧
    (a.execute v {} (drawnBy before v d)).1 = .ok (.ok w)

section Candidates
variable {a : Assembly} {candidates : List Assembly} {v : Value} {d : Draws}

theorem Executes.apply (h : a.Executes) (v : Value) (o : Options) (d : Draws) :
    a.execute v o d = (.ok (Outcome.report (a.schema.run v o d).1), (a.schema.run v o d).2) := by
  rw [h v o]
  rfl

theorem not_someAccepts_nil : ¬ SomeAccepts [] v d := by
  rintro ⟨before, a, after, w, hsplit, -⟩
  cases before <;> cases hsplit

theorem someAccepts_cons :
    SomeAccepts (a :: candidates) v d ↔
      (∃ w, (a.execute v {} d).1 = .ok (.ok w)) ∨
        SomeAccepts candidates v (a.execute v {} d).2 := by
  constructor
  · rintro ⟨before, c, after, w, hsplit, hw⟩
    cases before with
    | nil =>
      obtain ⟨rfl, -⟩ := List.cons.inj hsplit
      exact .inl ⟨w, hw⟩
    | cons b before =>
      obtain ⟨rfl, hrest⟩ := List.cons.inj hsplit
      exact .inr ⟨before, c, after, w, hrest, hw⟩
  · rintro (⟨w, hw⟩ | ⟨before, c, after, w, rfl, hw⟩)
    · exact ⟨[], a, candidates, w, rfl, hw⟩
    · exact ⟨a :: before, c, after, w, rfl, hw⟩

/-- The search for the first candidate to accept finds one when there is one. -/
theorem firstExecuting_isSome (h : ∀ t ∈ candidates, t.Executes) (v : Value) (d : Draws) :
    ∃ found d', firstExecuting candidates v {} d = (.ok found, d') ∧
      (found.isSome = true ↔ SomeAccepts candidates v d) := by
  induction candidates generalizing d with
  | nil => exact ⟨none, d, rfl, iff_of_false (by simp) not_someAccepts_nil⟩
  | cons a rest ih =>
    obtain ⟨ha, hrest⟩ := List.forall_mem_cons.mp h
    have hexecute := ha.apply v {} d
    simp only [firstExecuting, Guarded.bind_of_ok hexecute, someAccepts_cons, hexecute]
    cases hr : (a.schema.run v {} d).1 with
    | ok w => exact ⟨some w, _, rfl, iff_of_true rfl (.inl ⟨w, rfl⟩)⟩
    | error es =>
      obtain ⟨found, d', hfound, hiff⟩ := ih hrest (a.schema.run v {} d).2
      refine ⟨found, d', hfound, hiff.trans ⟨.inr, fun h => h.resolve_left ?_⟩⟩
      rintro ⟨w, hw⟩
      cases Except.ok.inj hw

/-- When nothing hangs on what was drawn, it does not matter which candidates came before. -/
theorem someAccepts_iff_of_steady (h : ∀ t ∈ candidates, t.Executes)
    (steady : ∀ t ∈ candidates, t.schema.Steady) :
    SomeAccepts candidates v d ↔ ∃ t ∈ candidates, ∃ w, (t.execute v {} d).1 = .ok (.ok w) := by
  have hsame : ∀ t ∈ candidates, ∀ d', (t.execute v {} d').1 = (t.execute v {} d).1 := by
    intro t ht d'
    rw [(h t ht).apply, (h t ht).apply, Schema.run_yields (steady t ht) v {} d',
      Schema.run_yields (steady t ht) v {} d]
  constructor
  · rintro ⟨before, t, after, w, rfl, hw⟩
    have ht : t ∈ before ++ t :: after := by simp
    exact ⟨t, ht, w, hsame t ht _ ▸ hw⟩
  · rintro ⟨t, ht, w, hw⟩
    obtain ⟨before, after, rfl⟩ := List.append_of_mem ht
    exact ⟨before, t, after, w, rfl, (hsame t ht _).trans hw⟩

end Candidates

section Accepts
variable {a : Assembly} {kind : String} {v : Value} {d : Draws}

theorem letsIn_condition {p : Condition} (h : a.gauge = ⟨kind, .condition p⟩) (v : Value)
    (d : Draws) : a.letsIn v d = (.ok (p v), d) := by
  rw [letsIn, h]
  rfl

theorem accepts_condition_iff {p : Condition} (h : a.gauge = ⟨kind, .condition p⟩) :
    a.Accepts v d ↔ p v = true := by
  rw [Accepts, letsIn_condition h, Except.ok.injEq]

theorem Executes.accepts_union_iff {candidates : List Assembly}
    (h : ∀ t ∈ candidates, t.Executes) (hgauge : a.gauge = .union candidates) :
    a.Accepts v d ↔ SomeAccepts candidates v d := by
  obtain ⟨found, d', hfound, hiff⟩ := firstExecuting_isSome h v d
  have hletsIn : a.letsIn v d = (.ok found.isSome, d') := by
    rw [letsIn, hgauge]
    exact Guarded.bind_of_ok hfound _
  rw [Accepts, hletsIn, Except.ok.injEq, hiff]

end Accepts

/-! ## What the gauge lets in, frame by frame -/

section Frames
variable {a : Assembly}

theorem Fits.accepts_object_iff (h : a.Fits) {fields : List (String × Assembly)}
    (hframe : a.frame = .object fields) :
    a.gauge.kind = "object" ∧ ∀ v d, a.Accepts v d ↔ ∃ members, v = .object members := by
  obtain ⟨hgauge, -⟩ := h.takes_of_frame hframe
  refine ⟨congrArg Gauge.kind hgauge, fun v d => ?_⟩
  rw [accepts_condition_iff hgauge]
  cases v <;> simp [Value.members?]

theorem Fits.accepts_array_iff (h : a.Fits) {element : Assembly}
    (hframe : a.frame = .array element) :
    a.gauge.kind = "array" ∧ ∀ v d, a.Accepts v d ↔ ∃ items, v = .array items := by
  have hgauge : a.gauge = .array := h.takes_of_frame hframe
  refine ⟨congrArg Gauge.kind hgauge, fun v d => ?_⟩
  rw [accepts_condition_iff hgauge]
  cases v <;> simp [Condition.items]

theorem Fits.accepts_enumeration_iff (h : a.Fits) {values : List String}
    (hframe : a.frame = .enumeration values) :
    a.gauge.kind = "enum" ∧ ∀ v d, a.Accepts v d ↔ ∃ s ∈ values, v = .text s := by
  have hgauge : a.gauge = .oneOf values := h.takes_of_frame hframe
  refine ⟨congrArg Gauge.kind hgauge, fun v d => ?_⟩
  rw [accepts_condition_iff hgauge]
  cases v <;> simp [Condition.text]

theorem Fits.accepts_literal_iff (h : a.Fits) {value : Value} (hframe : a.frame = .literal value) :
    a.gauge.kind = "literal" ∧ ∀ v d, a.Accepts v d ↔ v.equals value = true := by
  have hgauge : a.gauge = .equals value := h.takes_of_frame hframe
  refine ⟨congrArg Gauge.kind hgauge, fun v d => ?_⟩
  rw [accepts_condition_iff hgauge]

theorem Fits.accepts_union_iff (h : a.Fits) {candidates : List Assembly}
    (hframe : a.frame = .union candidates) :
    a.gauge.kind = "union" ∧ (∀ v d, a.Accepts v d ↔ SomeAccepts candidates v d) ∧
      ((∀ t ∈ candidates, t.schema.Steady) → ∀ v d,
        a.Accepts v d ↔ ∃ t ∈ candidates, ∃ w, (t.execute v {} d).1 = .ok (.ok w)) := by
  have hgauge : a.gauge = .union candidates := h.takes_of_frame hframe
  have hcandidates : ∀ t ∈ candidates, t.Executes := fun t ht =>
    (h.of_mem (by simp [parts, hframe, Frame.parts, ht])).executes
  have haccepts : ∀ v d, a.Accepts v d ↔ SomeAccepts candidates v d :=
    fun v d => Executes.accepts_union_iff hcandidates hgauge
  exact ⟨congrArg Gauge.kind hgauge, haccepts,
    fun steady v d => (haccepts v d).trans (someAccepts_iff_of_steady hcandidates steady)⟩

/-- What an enumeration says of a text that it does not let in. -/
theorem Fits.enumeration_base (h : a.Fits) {values : List String}
    (hframe : a.frame = .enumeration values) {v : Value} {d : Draws} (hv : ¬ a.Accepts v d)
    (o : Options) :
    a.base v o d = (.ok (.error [.typeMismatch (.enumeration values) a.label v]), d) := by
  have hgauge : a.gauge = .oneOf values := h.takes_of_frame hframe
  have hletsIn := letsIn_condition hgauge v d
  rw [accepts_condition_iff hgauge, Bool.not_eq_true] at hv
  rw [hv] at hletsIn
  rw [base, hframe]
  exact Guarded.bind_of_ok hletsIn _

end Frames

/-! ## Agreement -/

/-- In a node, what is let in and what is taken apart agree, and nothing that the node runs comes
upon a value that it is not made for. -/
structure Agrees (a : Assembly) : Prop where
  /-- The gauge is the primitive of the schema that the assembly comes to. -/
  primitive : a.schema.primitive = a.gauge.primitive
  /-- A frame of fields goes with a gauge that lets in the objects. -/
  object : ∀ fields, a.frame = .object fields →
    a.gauge.kind = "object" ∧ ∀ v d, a.Accepts v d ↔ ∃ members, v = .object members
  /-- A frame of items goes with a gauge that lets in the sequences. -/
  array : ∀ element, a.frame = .array element →
    a.gauge.kind = "array" ∧ ∀ v d, a.Accepts v d ↔ ∃ items, v = .array items
  /-- A frame of texts goes with a gauge that lets in these texts. -/
  enumeration : ∀ values, a.frame = .enumeration values →
    a.gauge.kind = "enum" ∧ ∀ v d, a.Accepts v d ↔ ∃ s ∈ values, v = .text s
  /-- A frame of one value goes with a gauge that lets in the values equal to it. -/
  literal : ∀ value, a.frame = .literal value →
    a.gauge.kind = "literal" ∧ ∀ v d, a.Accepts v d ↔ v.equals value = true
  /-- A frame of candidates goes with a gauge that lets in what one of them accepts under the
  default options: in view of what those before it drew, or whenever nothing hangs on that. -/
  union : ∀ candidates, a.frame = .union candidates →
    a.gauge.kind = "union" ∧ (∀ v d, a.Accepts v d ↔ SomeAccepts candidates v d) ∧
      ((∀ t ∈ candidates, t.schema.Steady) → ∀ v d,
        a.Accepts v d ↔ ∃ t ∈ candidates, ∃ w, (t.execute v {} d).1 = .ok (.ok w))
  /-- The texts that are listed when an enumeration rejects a value are those that it lets in. -/
  listing : ∀ values, a.frame = .enumeration values →
    (∀ s d, a.Accepts (.text s) d ↔ s ∈ values) ∧
      ∀ v o d, ¬ a.Accepts v d → ∃ e, a.base v o d = (.ok (.error [e]), d) ∧
        e.code = "invalid_enum_value" ∧
        (a.label.message = none → e.message =
          "The value \"" ++ v.display ++ "\" must be one of " ++ quotedAlternatives values ++ ".") ∧
        (a.label.name = none → e.expected = some ("enum<" ++ quotedAlternatives values ++ ">"))
  /-- Neither a value that is no object is taken apart into fields nor one that is no sequence
  into items, here or further inside: execution does not stop and returns what the parse
  returns. -/
  unbroken : ∀ v o d, (a.execute v o d).1 = .ok (a.schema.safeParse o v d).1.report

theorem Fits.agrees {a : Assembly} (h : a.Fits) : a.Agrees where
  primitive := by
    obtain ⟨frame, kind, test, label, steps⟩ := a
    exact h.takes.primitive_eq
  object _ hframe := h.accepts_object_iff hframe
  array _ hframe := h.accepts_array_iff hframe
  enumeration _ hframe := h.accepts_enumeration_iff hframe
  literal _ hframe := h.accepts_literal_iff hframe
  union _ hframe := h.accepts_union_iff hframe
  listing values hframe := by
    refine ⟨fun s d => ?_, fun v o d hv => ⟨_, h.enumeration_base hframe hv o, rfl, ?_, ?_⟩⟩
    · rw [(h.accepts_enumeration_iff hframe).2]
      simp
    · intro hmessage
      rw [Failure.typeMismatch, hmessage]
      rfl
    · intro hname
      rw [Failure.typeMismatch, hname]
      rfl
  unbroken v o d := by
    rw [h.executes.apply]
    rfl

/-- **Frame and gauge never drift apart**, whatever is done with the constructors, by attaching
steps, and by hooks composed of these, and execution therefore never comes upon a value that the
frame is not made for. -/
theorem frame_and_gauge_agree {a : Assembly} (h : Obtainable a) {hooks : List Hook}
    (composed : ∀ e ∈ hooks, Composed e) : (a.extended hooks).Agrees :=
  (h.extended composed).fits.agrees

/-- A hook that puts every sequence into a union. -/
theorem frame_and_gauge_agree_of_widened :
    let a := array (enumeration ["on", "off"] {}) {}
    let widen : Hook := fun t gauge _ =>
      if gauge.kind = "array" then union [t, literal .null {}] {} else t
    Obtainable a ∧ (∀ e ∈ [widen], Composed e) ∧
      (a.extended [widen]).frame = .union [a, literal .null {}] ∧
      (a.extended [widen]).Agrees := by
  intro a widen
  have ha : Obtainable a := .array {} (.enumeration ["on", "off"] {})
  have hwiden : Composed widen := by
    intro t gauge _ ht _
    by_cases hkind : gauge.kind = "array"
    · simp only [widen, if_pos hkind]
      exact .union _ {} (by simp [ht, Obtainable.literal])
    · simpa only [widen, if_neg hkind] using ht
  have hcomposed : ∀ e ∈ [widen], Composed e := by simpa using hwiden
  exact ⟨ha, hcomposed, rfl, frame_and_gauge_agree ha hcomposed⟩

end Assembly

end SchemaEngine
