import SchemaEngine.Schema.Parse
import SchemaEngine.Proofs.Drawing
import SchemaEngine.Proofs.Layers
import SchemaEngine.Proofs.Parts
import SchemaEngine.Proofs.Keys
import SchemaEngine.Proofs.Coherence

/-!
# What a parse reports

The failures of a parse are a tree laid flat.  A leaf is one failure of a value
itself; a node is an object or a sequence, with the failures of its parts one after
the other, each part under its own name or index.  `Reported` is that tree, and
`Schema.run_reported` says that every parse reports one: a union reports one failure
of its own, a pipe what the next schema reports, and no step adds to a report.

What the tree implies for paths is then an induction over the tree and says nothing
of schemas any more: two failures of one report lie at paths that part at segments of
one kind (`Reported.apart`), and names in paths are names of declared fields
(`Reported.declared`).
-/

namespace SchemaEngine

/-- A report: one failure of the value itself, or the reports of some of its parts,
whose names have the property `N`. -/
inductive Reported (N : String → Prop) : Failures → Prop
  | itself (e : Failure) : e.path = .root → Reported N (.single e)
  | parts {es : Failures} (blocks : List (Segment × Failures)) :
      (blocks.map Prod.fst).Pairwise Segment.Apart →
      (∀ b ∈ blocks, ∀ name, b.1 = .field name → N name) →
      (∀ b ∈ blocks, Reported N b.2) →
      es.toList = blocks.flatMap (fun b => (b.2.under b.1).toList) → Reported N es

/-! ## What a report implies -/

namespace Reported
variable {N : String → Prop} {es : Failures}

/-- **Two failures of a report lie at paths that part.** -/
theorem apart (h : Reported N es) : es.toList.Pairwise fun e f => e.path.Apart f.path := by
  induction h with
  | itself e _ => exact List.pairwise_singleton _ _
  | parts blocks hparts _ _ hes ih =>
    rw [hes, List.pairwise_flatMap]
    constructor
    · intro b hb
      rw [Failures.toList_under, List.pairwise_map]
      exact (ih b hb).imp fun h => h.under b.1
    -- failures of two parts part at the very first segment
    · refine (List.pairwise_map.mp hparts).imp fun {b c} hbc e he f hf => ?_
      rw [Failures.toList_under] at he hf
      obtain ⟨e', -, rfl⟩ := List.mem_map.mp he
      obtain ⟨f', -, rfl⟩ := List.mem_map.mp hf
      exact Path.Apart.of_head hbc e'.path f'.path

/-- The names in the paths of a report are names of fields. -/
theorem declared (h : Reported N es) :
    ∀ e ∈ es.toList, ∀ name, .field name ∈ e.path.segments → N name := by
  induction h with
  | itself e he =>
    intro f hf name hn
    obtain rfl := List.mem_singleton.mp hf
    rw [he] at hn
    cases hn
  | parts blocks _ hnames _ hes ih =>
    intro f hf name hn
    rw [hes] at hf
    obtain ⟨b, hb, hf⟩ := List.mem_flatMap.mp hf
    rw [Failures.toList_under] at hf
    obtain ⟨e, he, rfl⟩ := List.mem_map.mp hf
    rcases List.mem_cons.mp hn with hn | hn
    · exact hnames b hb name hn.symm
    · exact ih b hb e he name hn

/-- A failure of the value itself is the only one. -/
theorem alone (h : Reported N es) {e : Failure} (he : e ∈ es.toList) (hroot : e.path = .root) :
    es = .single e := by
  obtain ⟨first, rest⟩ := es
  have hap : ∀ f ∈ rest, first.path.Apart f.path := (List.pairwise_cons.mp h.apart).1
  rcases List.mem_cons.mp he with rfl | he
  · cases rest with
    | nil => rfl
    | cons f rest =>
      have := hap f (List.mem_cons_self ..)
      rw [hroot] at this
      exact absurd this (Path.not_apart_root_left _)
  · have := hap e he
    rw [hroot] at this
    exact absurd this (Path.not_apart_root_right _)

end Reported

/-! ## Parts of a value -/

/-- The failures of a result are a report. -/
def Outcome.Reports (N : String → Prop) : Outcome → Prop
  | .ok _ => True
  | .error es => Reported N es

/-- Whatever was drawn before, the failures of every parse are a report. -/
def Schema.Reports (N : String → Prop) (s : Schema) : Prop :=
  ∀ v o, Drawing.Ensures (s.run v o) (Outcome.Reports N)

namespace Gathered
variable {α : Type} {N : String → Prop} {S S' : Segment → Prop} {g g' : Gathered α}

/-- What was gathered failed in some parts, under segments with the property `S`. -/
def Reports (N : String → Prop) (S : Segment → Prop) (g : Gathered α) : Prop :=
  ∃ blocks : List (Segment × Failures),
    g.failures = blocks.flatMap (fun b => (b.2.under b.1).toList) ∧
    (blocks.map Prod.fst).Pairwise Segment.Apart ∧
    (∀ b ∈ blocks, S b.1) ∧ ∀ b ∈ blocks, Reported N b.2

theorem reports_none : (none : Gathered α).Reports N S :=
  ⟨[], rfl, List.Pairwise.nil, fun _ hb => absurd hb List.not_mem_nil,
    fun _ hb => absurd hb List.not_mem_nil⟩

theorem Reports.imp (h : g.Reports N S) (hS : ∀ s, S s → S' s)
    (hf : g'.failures = g.failures) : g'.Reports N S' := by
  obtain ⟨blocks, hg, hap, hs, hr⟩ := h
  exact ⟨blocks, hf.trans hg, hap, fun b hb => hS b.1 (hs b hb), hr⟩

/-- One more part that failed, apart from all others. -/
theorem Reports.reject {segment : Segment} {es : Failures} (h : g.Reports N S)
    (hsegment : S' segment) (hS : ∀ s, S s → segment.Apart s ∧ S' s) (hes : Reported N es) :
    (g.reject (es.under segment)).Reports N S' := by
  obtain ⟨blocks, hg, hap, hs, hr⟩ := h
  refine ⟨(segment, es) :: blocks, ?_, ?_, ?_, ?_⟩
  · simp only [Gathered.reject, hg, List.flatMap_cons]
  · refine List.pairwise_cons.mpr ⟨fun s hmem => ?_, hap⟩
    obtain ⟨b, hb, rfl⟩ := List.mem_map.mp hmem
    exact (hS b.1 (hs b hb)).1
  · intro b hb
    rcases List.mem_cons.mp hb with rfl | hb
    · exact hsegment
    · exact (hS b.1 (hs b hb)).2
  · intro b hb
    rcases List.mem_cons.mp hb with rfl | hb
    · exact hes
    · exact hr b hb

theorem Reports.outcome (h : g.Reports N S) (hN : ∀ name, S (.field name) → N name)
    (assemble : List α → Value) : (g.outcome assemble).Reports N := by
  obtain ⟨blocks, hg, hap, hs, hr⟩ := h
  cases hf : g.failures with
  | nil => simp [Gathered.outcome, hf, Failures.ofList?, Outcome.Reports]
  | cons e rest =>
    simp only [Gathered.outcome, hf, Failures.ofList?, Outcome.Reports]
    refine .parts blocks hap (fun b hb name hname => hN name (hname ▸ hs b hb)) hr ?_
    rw [← hg, hf]
    rfl

end Gathered

section Parts
variable {N : String → Prop}

theorem gatherFields_reports {fields : List (String × Schema)} (members : Entries Value)
    (o : Options) (distinct : Entries.Distinct fields) (h : ∀ p ∈ fields, p.2.Reports N) :
    Drawing.Ensures (gatherFields fields members o)
      (·.Reports N fun s => ∃ name ∈ Entries.names fields, s = .field name) := by
  induction fields with
  | nil => exact Drawing.ensures_pure Gathered.reports_none
  | cons field rest ih =>
    obtain ⟨name, s⟩ := field
    obtain ⟨hnew, hdistinct⟩ := List.nodup_cons.mp distinct
    have hrest := ih hdistinct fun p hp => h p (List.mem_cons_of_mem _ hp)
    simp only [gatherFields]
    refine (h (name, s) (List.mem_cons_self ..) _ o).bind fun r hr => ?_
    -- a later field has a name of its own
    have hlater : ∀ s', (∃ other ∈ Entries.names rest, s' = .field other) →
        Segment.Apart (.field name) s' ∧
          ∃ other ∈ Entries.names ((name, s) :: rest), s' = .field other := by
      rintro s' ⟨other, ho, rfl⟩
      exact ⟨fun he => hnew (he ▸ ho), other, List.mem_cons_of_mem _ ho, rfl⟩
    have hhere : ∃ other ∈ Entries.names ((name, s) :: rest),
        Segment.field name = .field other := ⟨name, List.mem_cons_self .., rfl⟩
    cases r with
    | ok w =>
      refine hrest.bind fun g hg => Drawing.ensures_pure ?_
      refine hg.imp (fun s' hs' => (hlater s' hs').2) ?_
      unfold Gathered.acceptMember
      split <;> rfl
    | error es =>
      by_cases ho : o.abortEarly = true
      · simp only [if_pos ho]
        exact Drawing.ensures_pure
          (Gathered.reports_none.reject (S := fun _ => False) hhere (fun _ => False.elim) hr)
      · simp only [if_neg ho]
        exact hrest.bind fun g hg => Drawing.ensures_pure (hg.reject hhere hlater hr)

theorem gatherItems_reports {parse : Value → Drawing Outcome} (o : Options)
    (h : ∀ v, Drawing.Ensures (parse v) (Outcome.Reports N)) (i : Nat) (items : List Value) :
    Drawing.Ensures (gatherItems parse o i items)
      (·.Reports N fun s => ∃ j, i ≤ j ∧ s = .index j) := by
  induction items generalizing i with
  | nil => exact Drawing.ensures_pure Gathered.reports_none
  | cons v rest ih =>
    simp only [gatherItems]
    refine (h v).bind fun r hr => ?_
    -- a later item has a greater index
    have hlater : ∀ s, (∃ j, i + 1 ≤ j ∧ s = .index j) →
        Segment.Apart (.index i) s ∧ ∃ j, i ≤ j ∧ s = .index j := by
      rintro s ⟨j, hj, rfl⟩
      exact ⟨hj, j, Nat.le_of_succ_le hj, rfl⟩
    have hhere : ∃ j, i ≤ j ∧ Segment.index i = .index j := ⟨i, Nat.le_refl i, rfl⟩
    cases r with
    | ok w =>
      exact (ih (i + 1)).bind fun g hg => Drawing.ensures_pure
        (hg.imp (fun s hs => (hlater s hs).2) rfl)
    | error es =>
      by_cases ho : o.abortEarly = true
      · simp only [if_pos ho]
        exact Drawing.ensures_pure
          (Gathered.reports_none.reject (S := fun _ => False) hhere (fun _ => False.elim) hr)
      · simp only [if_neg ho]
        exact (ih (i + 1)).bind fun g hg => Drawing.ensures_pure (hg.reject hhere hlater hr)

end Parts

/-! ## Steps, shapes and schemas -/

section Schemas
variable {N : String → Prop}

theorem Step.wrap_reports {step : Step} {o : Options} {below : Value → Drawing Outcome}
    (parts : ∀ t ∈ step.parts, t.Reports N)
    (h : ∀ v, Drawing.Ensures (below v) (Outcome.Reports N)) (v : Value) :
    Drawing.Ensures (step.wrap o below v) (Outcome.Reports N) := by
  -- a rescue makes an output of a failure or does nothing
  have hrescue : ∀ (b : Bool) (x : Value), Drawing.Ensures (do return (← below v).rescue b x)
      (Outcome.Reports N) := by
    intro b x
    refine (h v).bind fun r hr => Drawing.ensures_pure ?_
    rcases Outcome.rescue_eq b x r with h | h
    · rw [h]
      trivial
    · rw [h]
      exact hr
  cases step with
  | default fallback =>
    simp only [Step.wrap]
    split
    · exact Drawing.ensures_bind _ fun w => h w
    · exact h v
  | preprocess f => exact h _
  | optional => exact hrescue _ _
  | nullable => exact hrescue _ _
  | nullish => exact hrescue _ _
  | transform f =>
    simp only [Step.wrap]
    refine (h v).bind fun r hr => ?_
    cases r with
    | ok w => exact Drawing.ensures_pure trivial
    | error es => exact Drawing.ensures_pure hr
  | pipe next =>
    simp only [Step.wrap]
    refine (h v).bind fun r hr => ?_
    cases r with
    | ok w => exact parts next (List.mem_singleton.mpr rfl) w o
    | error es => exact Drawing.ensures_pure hr
  | refine test message subject =>
    simp only [Step.wrap]
    refine (h v).bind fun r hr => ?_
    cases r with
    | ok w =>
      refine Drawing.ensures_bind _ fun b => ?_
      cases b with
      | true => exact Drawing.ensures_pure trivial
      | false => exact Drawing.ensures_pure (.itself _ rfl)
    | error es => exact Drawing.ensures_pure hr

theorem layered_reports {o : Options} {base : Value → Drawing Outcome} {steps : List Step}
    (parts : ∀ step ∈ steps, ∀ t ∈ step.parts, t.Reports N)
    (h : ∀ v, Drawing.Ensures (base v) (Outcome.Reports N)) (v : Value) :
    Drawing.Ensures (layered o base steps v) (Outcome.Reports N) := by
  induction steps generalizing v with
  | nil => exact h v
  | cons step below ih =>
    exact Step.wrap_reports (parts step (List.mem_cons_self ..))
      (fun w => ih (fun s hs => parts s (List.mem_cons_of_mem _ hs)) w) v

theorem Shape.base_reports {shape : Shape} (parts : ∀ t ∈ shape.parts, t.Reports N)
    (distinct : shape.fieldNames.Nodup) (names : ∀ name ∈ shape.fieldNames, N name)
    (label : Label) (v : Value) (o : Options) :
    Drawing.Ensures (shape.base label v o) (Outcome.Reports N) := by
  -- a failure of the value itself is a report
  have hitself : ∀ e : Failure, e.path = .root →
      Drawing.Ensures (pure (.error (.single e))) (Outcome.Reports N) :=
    fun e he => Drawing.ensures_pure (.itself e he)
  have hok : ∀ w, Drawing.Ensures (pure (.ok w)) (Outcome.Reports N) :=
    fun _ => Drawing.ensures_pure trivial
  cases shape with
  | leaf kind test =>
    simp only [Shape.base]
    refine Drawing.ensures_bind _ fun b => ?_
    cases b with
    | true => exact hok _
    | false => exact hitself _ rfl
  | object fields =>
    cases v with
    | object members =>
      have hfields : ∀ p ∈ fields, p.2.Reports N :=
        fun p hp => parts p.2 (List.mem_map_of_mem hp)
      refine (gatherFields_reports members o distinct hfields).bind
        fun g hg => Drawing.ensures_pure (hg.outcome ?_ Value.object)
      rintro name ⟨other, ho, he⟩
      exact Segment.field.inj he ▸ names other ho
    | _ => exact hitself _ rfl
  | array element =>
    cases v with
    | array items =>
      have helement : ∀ w, Drawing.Ensures (element.run w o) (Outcome.Reports N) :=
        fun w => parts element (List.mem_singleton.mpr rfl) w o
      refine (gatherItems_reports o helement 0 items).bind
        fun g hg => Drawing.ensures_pure (hg.outcome ?_ Value.array)
      rintro name ⟨j, -, he⟩
      cases he
    | _ => exact hitself _ rfl
  | enumeration values =>
    cases v with
    | text s =>
      simp only [Shape.base]
      split
      · exact hok _
      · exact hitself _ rfl
    | _ => exact hitself _ rfl
  | literal value =>
    simp only [Shape.base]
    split
    · exact hok _
    · exact hitself _ rfl
  | union candidates =>
    simp only [Shape.base]
    refine Drawing.ensures_bind _ fun r => ?_
    cases r with
    | some w => exact hok w
    | none => exact hitself _ rfl

/-- **Every parse reports a tree of failures**: with a schema that declares the fields
of every object once, under names with the property `N`. -/
theorem Schema.run_reported {s : Schema}
    (distinct : s.All parts fun t => t.shape.fieldNames.Nodup)
    (names : s.All parts fun t => ∀ name ∈ t.shape.fieldNames, N name) : s.Reports N := by
  induction s using Schema.induction with
  | node shape label steps hshape hsteps =>
    intro v o
    rw [Schema.run, walks_eq_layered o (fun w => shape.base label w o)]
    refine layered_reports (fun step hs t ht => ?_) (fun w => ?_) v
    · have hs := List.mem_reverse.mp hs
      exact hsteps step hs t ht (distinct.of_step hs ht) (names.of_step hs ht)
    · exact Shape.base_reports
        (fun t ht => hshape t ht (distinct.of_shape ht) (names.of_shape ht))
        distinct.self names.self label w o

end Schemas

/-! ## Paths and keys of the failures of a parse -/

theorem Reported.keys_nodup {es : Failures} (h : Reported Text.PointFree es)
    (coherent : ∀ e ∈ es.toList, e.Coherent) : (es.toList.map Failure.key?).Nodup := by
  refine List.pairwise_map.mpr (h.apart.imp_of_mem fun {e f} he hf hef => ?_)
  rw [(coherent e he).key?_eq, (coherent f hf).key?_eq]
  exact hef.key?_ne (h.declared e he) (h.declared f hf)

/-- The failures at a key are counted by the key. -/
theorem Failures.length_atKey (es : Failures) (key : String) :
    (es.atKey key).length = (es.toList.map Failure.key?).count (some key) := by
  rw [Failures.atKey, ← List.countP_eq_length_filter, List.count, List.countP_map]
  rfl

/-- **At most one failure at each place.**  The paths of two failures of one parse part
at segments of one kind, so that neither begins with the other and a failure of the
whole value is the only one.  Where no declared name has a point, the keys are
distinct too, and at most one failure is found at a key. -/
theorem Schema.failures_apart {s : Schema} (wf : s.WellFormed) {o : Options} {v : Value}
    {d : Draws} {es : Failures} (h : (s.safeParse o v d).1 = .error es) :
    (es.toList.Pairwise fun e f => ¬ e.path.segments <+: f.path.segments ∧
      ¬ f.path.segments <+: e.path.segments ∧ e.path.Apart f.path) ∧
    (∀ e ∈ es.toList, e.path = .root → es.toList = [e]) ∧
    (s.All parts (fun t => ∀ name ∈ t.shape.fieldNames, Text.PointFree name) →
      (es.toList.map Failure.key?).Nodup ∧ ∀ key, (es.atKey key).length ≤ 1) := by
  have hreport : Reported (fun _ => True) es := by
    have hrun := Schema.run_reported wf (Schema.all_parts (fun _ _ _ => trivial) s) v o d
    rw [show (s.run v o d).1 = .error es from h] at hrun
    exact hrun
  refine ⟨hreport.apart.imp fun hef => ⟨hef.not_prefix.1, hef.not_prefix.2, hef⟩,
    fun e he hroot => ?_, fun names => ?_⟩
  · rw [hreport.alone he hroot]
    rfl
  · have hnames : Reported Text.PointFree es := by
      have hrun := Schema.run_reported wf names v o d
      rw [show (s.run v o d).1 = .error es from h] at hrun
      exact hrun
    have hkeys := hnames.keys_nodup (coherent_of_run h)
    refine ⟨hkeys, fun key => ?_⟩
    rw [Failures.length_atKey]
    exact List.nodup_iff_count.mp hkeys _

/-- An object with two fields, the second a sequence, and three failures in it. -/
theorem Schema.failures_apart_of_three :
    let s := object [("name", leaf .string {}), ("tags", array (leaf .number {}) {})] {}
    let v := Value.object [("name", .null), ("tags", .array [.null, .text "a"])]
    ∃ es, (s.safeParse .collectAll v []).1 = .error es ∧ es.count = 3 ∧
      (es.toList.map Failure.key?).Nodup ∧ ∀ key, (es.atKey key).length ≤ 1 := by
  intro s v
  have hwf : s.WellFormed := wellFormed_object (by
    simp [WellFormed, leaf, array, Shape.parts, Shape.fieldNames, Test.parts,
      Primitive.string, Primitive.number])
  have hnames : s.All parts fun t => ∀ name ∈ t.shape.fieldNames, Text.PointFree name := by
    simp [s, object, leaf, array, Entries.ofList, Entries.put, Entries.names, Shape.parts,
      Shape.fieldNames, Test.parts, Primitive.string, Primitive.number, Text.PointFree]
  exact ⟨_, rfl, rfl, (failures_apart (o := .collectAll) (v := v) (d := []) hwf rfl).2.2 hnames⟩

end SchemaEngine
