import SchemaEngine.Construction.Blueprint
import SchemaEngine.Proofs.Parts

/-!
# Schemas as they are put together

What a schema accepts before any step is said twice where it is kept: by its *frame*, into
which values are taken apart, and by its *gauge*, a kind with a test that lets values in.
Both are made when a node is constructed.  After that nothing compares them, and a union even
holds its candidates twice, once in each.

A `Schema` has no such pair: `Schema.primitive` computes the gauge from the shape.  An
`Assembly` is a schema with the two kept apart, and `Assembly.schema` forgets the gauge where
the frame says as much.  `Assembly.Obtainable` lists the ways in which assemblies come about,
and `Assembly.Fits` is what all of them keep: in every node the gauge is the one that goes with
the frame (`Obtainable.fits`).  The schemas that obtainable assemblies come to are the well-formed
ones (`Schema.assembled_iff`), so what is shown of the former is said of all of the latter.
-/

namespace SchemaEngine

mutual

/-- A node: a frame, the kind and the test of its gauge, a label, and steps in the order in
which they were attached. -/
inductive Assembly where
  | node (frame : Frame) (kind : String) (test : Probe) (label : Label) (steps : List Fitting)

/-- Into what a node takes a value apart. -/
inductive Frame where
  /-- Into nothing. -/
  | leaf
  /-- Into fields by name. -/
  | object (fields : List (String × Assembly))
  /-- Into items. -/
  | array (element : Assembly)
  /-- Into nothing; the texts of a list are meant. -/
  | enumeration (values : List String)
  /-- Into nothing; one value is meant. -/
  | literal (value : Value)
  /-- Into nothing; the value is for the first candidate that accepts it. -/
  | union (candidates : List Assembly)

/-- A step of an assembly. -/
inductive Fitting where
  /-- Lets an absent value pass. -/
  | optional
  /-- Lets null pass. -/
  | nullable
  /-- Lets null and an absent value pass. -/
  | nullish
  /-- Replaces an absent value before anything else. -/
  | default (fallback : Fallback)
  /-- Converts the input before anything else. -/
  | preprocess (f : Conversion)
  /-- Converts the output. -/
  | transform (f : Conversion)
  /-- Passes the output on to another assembly. -/
  | pipe (next : Assembly)
  /-- Rejects an output that fails a test. -/
  | refine (test : Probe) (message : Option Message) (subject : Subject)

/-- A test that may run assemblies. -/
inductive Probe where
  /-- The value satisfies a condition. -/
  | condition (p : Condition)
  /-- One of the assemblies accepts the value. -/
  | accepted (candidates : List Assembly)
  /-- The value fails a test. -/
  | not (test : Probe)

end

/-- What a node checks for: a kind and the test that goes with it. -/
structure Gauge where
  /-- The name of the kind. -/
  kind : String
  /-- The test that values of the kind pass. -/
  test : Probe

/-! ## Parts -/

/-- The assemblies that a test runs. -/
def Probe.parts : Probe → List Assembly
  | .condition _ => []
  | .accepted candidates => candidates
  | .not test => test.parts

/-- The assemblies that a step runs. -/
def Fitting.parts : Fitting → List Assembly
  | .pipe next => [next]
  | .refine test _ _ => test.parts
  | _ => []

/-- The assemblies in a frame. -/
def Frame.parts : Frame → List Assembly
  | .object fields => fields.map Prod.snd
  | .array element => [element]
  | .union candidates => candidates
  | _ => []

namespace Assembly

/-- The frame of a node. -/
def frame : Assembly → Frame
  | .node frame _ _ _ _ => frame

/-- The gauge of a node. -/
def gauge : Assembly → Gauge
  | .node _ kind test _ _ => ⟨kind, test⟩

/-- The label of a node. -/
def label : Assembly → Label
  | .node _ _ _ label _ => label

/-- The steps of a node, first attached first. -/
def steps : Assembly → List Fitting
  | .node _ _ _ _ steps => steps

/-- The assemblies that a node runs. -/
def parts (a : Assembly) : List Assembly :=
  a.frame.parts ++ a.gauge.test.parts ++ a.steps.flatMap Fitting.parts

/-- What extensions are told of a node. -/
def info (a : Assembly) : NodeInfo := ⟨a.gauge.kind, a.label.name, a.label.message⟩

section Node
variable (frame : Frame) (kind : String) (test : Probe) (label : Label) (steps : List Fitting)

@[simp] theorem frame_node : (node frame kind test label steps).frame = frame := rfl

@[simp] theorem gauge_node : (node frame kind test label steps).gauge = ⟨kind, test⟩ := rfl

@[simp] theorem parts_node :
    (node frame kind test label steps).parts =
      frame.parts ++ test.parts ++ steps.flatMap Fitting.parts := rfl

end Node

end Assembly

/-! ## Forgetting the gauge -/

mutual

/-- The schema that an assembly comes to. -/
def Assembly.schema : Assembly → Schema
  | .node frame kind test label steps =>
    .node (frame.shape kind test.test) label (fittedSteps steps)

/-- The shape that a frame comes to.  Only a leaf leaves it to the gauge what is accepted. -/
def Frame.shape : Frame → String → Test → Shape
  | .leaf, kind, test => .leaf kind test
  | .object fields, _, _ => .object (fieldSchemas fields)
  | .array element, _, _ => .array element.schema
  | .enumeration values, _, _ => .enumeration values
  | .literal value, _, _ => .literal value
  | .union candidates, _, _ => .union (schemas candidates)

/-- The schemas of fields. -/
def fieldSchemas : List (String × Assembly) → List (String × Schema)
  | [] => []
  | (name, a) :: rest => (name, a.schema) :: fieldSchemas rest

/-- The schemas of a list of assemblies. -/
def schemas : List Assembly → List Schema
  | [] => []
  | a :: rest => a.schema :: schemas rest

/-- The steps of a list of fittings. -/
def fittedSteps : List Fitting → List Step
  | [] => []
  | fitting :: rest => fitting.step :: fittedSteps rest

/-- The step that a fitting comes to. -/
def Fitting.step : Fitting → Step
  | .optional => .optional
  | .nullable => .nullable
  | .nullish => .nullish
  | .default fallback => .default fallback
  | .preprocess f => .preprocess f
  | .transform f => .transform f
  | .pipe next => .pipe next.schema
  | .refine test message subject => .refine test.test message subject

/-- The test that a probe comes to. -/
def Probe.test : Probe → Test
  | .condition p => .condition p
  | .accepted candidates => .accepted (schemas candidates)
  | .not test => .not test.test

end

theorem fieldSchemas_eq_map (fields : List (String × Assembly)) :
    fieldSchemas fields = fields.map fun p => (p.1, p.2.schema) := by
  induction fields with
  | nil => rfl
  | cons field rest ih => simp only [fieldSchemas, ih, List.map_cons]

theorem schemas_eq_map (candidates : List Assembly) :
    schemas candidates = candidates.map Assembly.schema := by
  induction candidates with
  | nil => rfl
  | cons a rest ih => simp only [schemas, ih, List.map_cons]

theorem fittedSteps_eq_map (steps : List Fitting) : fittedSteps steps = steps.map Fitting.step := by
  induction steps with
  | nil => rfl
  | cons step rest ih => simp only [fittedSteps, ih, List.map_cons]

/-! ## The ways in which assemblies come about -/

namespace Gauge

/-- Objects. -/
def object : Gauge := ⟨"object", .condition fun v => v.members?.isSome⟩

/-- Sequences. -/
def array : Gauge := ⟨"array", .condition (Condition.items fun _ => true)⟩

/-- The texts of a list. -/
def oneOf (values : List String) : Gauge :=
  ⟨"enum", .condition (Condition.text fun s => values.contains s)⟩

/-- The values equal to one value. -/
def equals (v : Value) : Gauge := ⟨"literal", .condition fun w => w.equals v⟩

/-- The values that one of the assemblies accepts. -/
def union (candidates : List Assembly) : Gauge := ⟨"union", .accepted candidates⟩

/-- The primitive that a gauge comes to. -/
def primitive (g : Gauge) : Primitive := ⟨g.kind, g.test.test⟩

end Gauge

namespace Assembly

/-- A new node. -/
def build (frame : Frame) (gauge : Gauge) (label : Label) : Assembly :=
  .node frame gauge.kind gauge.test label []

/-- The assembly of a kind. -/
def leaf (gauge : Gauge) (label : Label) : Assembly := build .leaf gauge label

/-- The assembly of objects with the given fields: a repeated name keeps its first place and
takes its last assembly. -/
def object (fields : List (String × Assembly)) (label : Label) : Assembly :=
  build (.object (Entries.ofList fields)) .object label

/-- The assembly of sequences with the given element. -/
def array (element : Assembly) (label : Label) : Assembly := build (.array element) .array label

/-- The assembly of the texts of a list. -/
def enumeration (values : List String) (label : Label) : Assembly :=
  build (.enumeration values) (.oneOf values) label

/-- The assembly of the values equal to one value. -/
def literal (value : Value) (label : Label) : Assembly :=
  build (.literal value) (.equals value) label

/-- The assembly that gives a value to the first candidate that accepts it. -/
def union (candidates : List Assembly) (label : Label) : Assembly :=
  build (.union candidates) (.union candidates) label

/-- An assembly with one more step. -/
def attach (fitting : Fitting) : Assembly → Assembly
  | .node frame kind test label steps => .node frame kind test label (steps ++ [fitting])

theorem schema_attach (fitting : Fitting) (a : Assembly) :
    (a.attach fitting).schema = a.schema.attach fitting.step := by
  obtain ⟨frame, kind, test, label, steps⟩ := a
  simp only [attach, schema, Schema.attach, fittedSteps_eq_map, List.map_append, List.map_cons,
    List.map_nil]

/-- An assembly that can be had from the constructors and by attaching steps.  Modifiers and
ready-made checks attach steps; a copy of an assembly is the assembly, and operations are kept
beside it. -/
inductive Obtainable : Assembly → Prop
  | leaf (gauge : Gauge) (label : Label) : (∀ t ∈ gauge.test.parts, Obtainable t) →
      Obtainable (leaf gauge label)
  | object (fields : List (String × Assembly)) (label : Label) :
      (∀ p ∈ fields, Obtainable p.2) → Obtainable (object fields label)
  | array {element : Assembly} (label : Label) : Obtainable element →
      Obtainable (array element label)
  | enumeration (values : List String) (label : Label) : Obtainable (enumeration values label)
  | literal (value : Value) (label : Label) : Obtainable (literal value label)
  | union (candidates : List Assembly) (label : Label) : (∀ t ∈ candidates, Obtainable t) →
      Obtainable (union candidates label)
  | attach {a : Assembly} (fitting : Fitting) : Obtainable a →
      (∀ t ∈ fitting.parts, Obtainable t) → Obtainable (a.attach fitting)

/-- A hook on the construction of nodes: it is shown a node, the gauge and the information of
the node that came in, and returns a node, whichever it likes.  An operation with its arguments
is a hook too. -/
abbrev Hook := Assembly → Gauge → NodeInfo → Assembly

/-- The hook is composed of the ways in which assemblies come about. -/
def Composed (e : Hook) : Prop :=
  ∀ a gauge info, Obtainable a → (∀ t ∈ gauge.test.parts, Obtainable t) →
    Obtainable (e a gauge info)

/-- A node goes through hooks one after the other. -/
def extended (hooks : List Hook) (a : Assembly) : Assembly :=
  hooks.foldl (fun present e => e present a.gauge a.info) a

section Obtainable
variable {a t : Assembly}

theorem Obtainable.gauge_parts (h : Obtainable a) (ht : t ∈ a.gauge.test.parts) :
    Obtainable t := by
  induction h with
  | leaf gauge label hparts => exact hparts t ht
  | union candidates label hcandidates => exact hcandidates t ht
  | @attach a fitting _ _ ih =>
    obtain ⟨frame, kind, test, label, steps⟩ := a
    exact ih ht
  | object fields label _ => cases ht
  | array label _ => cases ht
  | enumeration values label => cases ht
  | literal value label => cases ht

/-- Hooks that are composed of the ways in which assemblies come about add nothing to them. -/
theorem Obtainable.extended (h : Obtainable a) {hooks : List Hook}
    (composed : ∀ e ∈ hooks, Composed e) : Obtainable (a.extended hooks) := by
  have hparts : ∀ t ∈ a.gauge.test.parts, Obtainable t := fun t ht => h.gauge_parts ht
  -- the node changes from hook to hook, but not what the hooks are told
  have hfold : ∀ (es : List Hook) (present : Assembly), (∀ e ∈ es, Composed e) →
      Obtainable present →
      Obtainable (es.foldl (fun present e => e present a.gauge a.info) present) := by
    intro es
    induction es with
    | nil => exact fun present _ hpresent => hpresent
    | cons e rest ih =>
      intro present hes hpresent
      exact ih _ (fun e' he' => hes e' (List.mem_cons_of_mem _ he'))
        (hes e (List.mem_cons_self ..) present a.gauge a.info hpresent hparts)
  exact hfold hooks a composed h

end Obtainable

end Assembly

/-! ## Frames and gauges that fit -/

/-- The gauge goes with the frame.  A leaf goes with every gauge. -/
def Frame.Takes : Frame → Gauge → Prop
  | .leaf, _ => True
  | .object fields, gauge => gauge = .object ∧ Entries.Distinct fields
  | .array _, gauge => gauge = .array
  | .enumeration values, gauge => gauge = .oneOf values
  | .literal value, gauge => gauge = .equals value
  | .union candidates, gauge => gauge = .union candidates

/-- The primitive of a gauge that goes with a frame is that of the shape. -/
theorem Frame.Takes.primitive_eq {frame : Frame} {gauge : Gauge} (h : frame.Takes gauge) :
    (frame.shape gauge.kind gauge.test.test).primitive = gauge.primitive := by
  cases frame with
  | leaf => rfl
  | object fields =>
    obtain ⟨rfl, -⟩ := h
    rfl
  | array element =>
    obtain rfl : gauge = .array := h
    rfl
  | enumeration values =>
    obtain rfl : gauge = .oneOf values := h
    rfl
  | literal value =>
    obtain rfl : gauge = .equals value := h
    rfl
  | union candidates =>
    obtain rfl : gauge = .union candidates := h
    rfl

namespace Assembly

/-- In the node and in all nodes that it runs, the gauge goes with the frame. -/
inductive Fits : Assembly → Prop
  | intro {a : Assembly} : a.frame.Takes a.gauge → (∀ t ∈ a.parts, Fits t) → Fits a

theorem Fits.takes {a : Assembly} (h : a.Fits) : a.frame.Takes a.gauge := by
  cases h with | intro htakes _ => exact htakes

theorem Fits.takes_of_frame {a : Assembly} (h : a.Fits) {frame : Frame} (hframe : a.frame = frame) :
    frame.Takes a.gauge := hframe ▸ h.takes

theorem Fits.of_mem {a t : Assembly} (h : a.Fits) (ht : t ∈ a.parts) : t.Fits := by
  cases h with | intro _ hparts => exact hparts t ht

theorem mem_parts_build {frame : Frame} {gauge : Gauge} {label : Label} {t : Assembly} :
    t ∈ (build frame gauge label).parts ↔ t ∈ frame.parts ∨ t ∈ gauge.test.parts := by
  simp [build]

theorem mem_parts_attach {a t : Assembly} {fitting : Fitting} :
    t ∈ (a.attach fitting).parts ↔ t ∈ a.parts ∨ t ∈ fitting.parts := by
  obtain ⟨frame, kind, test, label, steps⟩ := a
  simp [attach, or_assoc]

theorem Fits.build {frame : Frame} {gauge : Gauge} {label : Label} (htakes : frame.Takes gauge)
    (hframe : ∀ t ∈ frame.parts, t.Fits) (hgauge : ∀ t ∈ gauge.test.parts, t.Fits) :
    (build frame gauge label).Fits :=
  .intro htakes fun t ht => (mem_parts_build.mp ht).elim (hframe t) (hgauge t)

theorem Fits.attach {a : Assembly} (h : a.Fits) {fitting : Fitting}
    (hparts : ∀ t ∈ fitting.parts, t.Fits) : (a.attach fitting).Fits := by
  have htakes : (a.attach fitting).frame.Takes (a.attach fitting).gauge := by
    obtain ⟨frame, kind, test, label, steps⟩ := a
    exact h.takes
  exact .intro htakes fun t ht => (mem_parts_attach.mp ht).elim h.of_mem (hparts t)

/-- **Frame and gauge never drift apart**: every way in which assemblies come about keeps them
together. -/
theorem Obtainable.fits {a : Assembly} (h : Obtainable a) : a.Fits := by
  have none : ∀ t ∈ ([] : List Assembly), t.Fits := fun t ht => absurd ht List.not_mem_nil
  induction h with
  | leaf gauge label _ ih =>
    have htakes : Frame.leaf.Takes gauge := trivial
    exact .build htakes none ih
  | object fields label _ ih =>
    have htakes : (Frame.object (Entries.ofList fields)).Takes .object :=
      ⟨rfl, Entries.distinct_ofList fields⟩
    refine .build htakes (fun t ht => ?_) none
    obtain ⟨p, hp, rfl⟩ := List.mem_map.mp ht
    exact ih p (Entries.mem_of_mem_ofList hp)
  | @array element label _ ih =>
    have htakes : (Frame.array element).Takes .array := rfl
    exact .build htakes (fun t ht => List.mem_singleton.mp ht ▸ ih) none
  | enumeration values label =>
    have htakes : (Frame.enumeration values).Takes (.oneOf values) := rfl
    exact .build htakes none none
  | literal value label =>
    have htakes : (Frame.literal value).Takes (.equals value) := rfl
    exact .build htakes none none
  | union candidates label _ ih =>
    have htakes : (Frame.union candidates).Takes (.union candidates) := rfl
    exact .build htakes ih ih
  | attach fitting _ _ ih ihparts => exact ih.attach ihparts

end Assembly

/-! ## Which schemas assemblies come to -/

theorem Probe.parts_test : ∀ test : Probe, test.test.parts = test.parts.map Assembly.schema
  | .condition _ => rfl
  | .accepted candidates => schemas_eq_map candidates
  | .not test => Probe.parts_test test

theorem Fitting.parts_step (step : Fitting) : step.step.parts = step.parts.map Assembly.schema := by
  cases step with
  | refine test message subject => exact test.parts_test
  | _ => rfl

theorem Frame.mem_parts_shape (frame : Frame) {kind : String} {test : Probe} {t : Schema}
    (h : t ∈ (frame.shape kind test.test).parts) :
    t ∈ (frame.parts ++ test.parts).map Assembly.schema := by
  rw [List.map_append, List.mem_append]
  cases frame with
  | leaf => exact .inr (test.parts_test ▸ h)
  | object fields =>
    rw [shape, fieldSchemas_eq_map, Shape.parts, List.map_map] at h
    rw [Frame.parts, List.map_map]
    exact .inl h
  | array element => exact .inl h
  | enumeration values => cases h
  | literal value => cases h
  | union candidates =>
    rw [shape, schemas_eq_map] at h
    exact .inl h

namespace Assembly

/-- What the schema of an assembly runs are schemas of what the assembly runs. -/
theorem exists_of_mem_parts {a : Assembly} {t : Schema} (h : t ∈ a.schema.parts) :
    ∃ b ∈ a.parts, b.schema = t := by
  obtain ⟨frame, kind, test, label, steps⟩ := a
  rw [schema, Schema.parts_node, List.mem_append, List.mem_flatMap, fittedSteps_eq_map] at h
  rcases h with h | ⟨step, hstep, h⟩
  · obtain ⟨b, hb, rfl⟩ := List.mem_map.mp (frame.mem_parts_shape h)
    exact ⟨b, List.mem_append_left _ hb, rfl⟩
  · obtain ⟨fitting, hfitting, rfl⟩ := List.mem_map.mp hstep
    rw [fitting.parts_step] at h
    obtain ⟨b, hb, rfl⟩ := List.mem_map.mp h
    exact ⟨b, List.mem_append_right _ (List.mem_flatMap.mpr ⟨fitting, hfitting, hb⟩), rfl⟩

theorem Fits.wellFormed {a : Assembly} (h : a.Fits) : a.schema.WellFormed := by
  induction h with
  | @intro a htakes _ ih =>
    have hnames : a.schema.shape.fieldNames.Nodup := by
      obtain ⟨frame, kind, test, label, steps⟩ := a
      cases frame with
      | object fields =>
        obtain ⟨-, distinct⟩ := htakes
        rw [schema, Schema.shape_node, Frame.shape, Shape.fieldNames, fieldSchemas_eq_map]
        exact Entries.distinct_map _ distinct
      | _ => exact List.nodup_nil
    refine .intro hnames fun t ht => ?_
    obtain ⟨b, hb, rfl⟩ := exists_of_mem_parts ht
    exact ih b hb

end Assembly

/-- The schema is what an obtainable assembly comes to. -/
def Schema.Assembled (s : Schema) : Prop := ∃ a, Assembly.Obtainable a ∧ a.schema = s

section Assembled
open Assembly (Obtainable)

theorem exists_assemblies (candidates : List Schema) (h : ∀ t ∈ candidates, t.Assembled) :
    ∃ as, (∀ a ∈ as, Obtainable a) ∧ schemas as = candidates := by
  induction candidates with
  | nil => exact ⟨[], by simp, rfl⟩
  | cons s rest ih =>
    obtain ⟨⟨a, ha, rfl⟩, hrest⟩ := List.forall_mem_cons.mp h
    obtain ⟨as, has, rfl⟩ := ih hrest
    exact ⟨a :: as, List.forall_mem_cons.mpr ⟨ha, has⟩, rfl⟩

theorem exists_fieldAssemblies (fields : List (String × Schema))
    (h : ∀ t ∈ fields.map Prod.snd, t.Assembled) :
    ∃ fs : List (String × Assembly), (∀ p ∈ fs, Obtainable p.2) ∧ fieldSchemas fs = fields := by
  induction fields with
  | nil => exact ⟨[], by simp, rfl⟩
  | cons field rest ih =>
    obtain ⟨name, s⟩ := field
    obtain ⟨⟨a, ha, hs⟩, hrest⟩ := List.forall_mem_cons.mp h
    obtain rfl : a.schema = s := hs
    obtain ⟨fs, hfs, rfl⟩ := ih hrest
    exact ⟨(name, a) :: fs, List.forall_mem_cons.mpr ⟨ha, hfs⟩, rfl⟩

theorem Test.exists_probe : ∀ test : Test, (∀ t ∈ test.parts, t.Assembled) →
    ∃ probe : Probe, (∀ t ∈ probe.parts, Obtainable t) ∧ probe.test = test
  | .condition p, _ => ⟨.condition p, fun _ ht => (List.not_mem_nil ht).elim, rfl⟩
  | .accepted candidates, h => by
      obtain ⟨as, has, rfl⟩ := exists_assemblies candidates h
      exact ⟨.accepted as, has, rfl⟩
  | .not test, h => by
      obtain ⟨probe, hprobe, rfl⟩ := test.exists_probe h
      exact ⟨.not probe, hprobe, rfl⟩

theorem Step.exists_fitting {step : Step} (h : ∀ t ∈ step.parts, t.Assembled) :
    ∃ fitting : Fitting, (∀ t ∈ fitting.parts, Obtainable t) ∧ fitting.step = step := by
  have none : ∀ t ∈ ([] : List Assembly), Obtainable t := fun t ht => absurd ht List.not_mem_nil
  cases step with
  | optional => exact ⟨.optional, none, rfl⟩
  | nullable => exact ⟨.nullable, none, rfl⟩
  | nullish => exact ⟨.nullish, none, rfl⟩
  | default fallback => exact ⟨.default fallback, none, rfl⟩
  | preprocess f => exact ⟨.preprocess f, none, rfl⟩
  | transform f => exact ⟨.transform f, none, rfl⟩
  | pipe next =>
    obtain ⟨a, ha, rfl⟩ := h next (List.mem_singleton.mpr rfl)
    exact ⟨.pipe a, fun t ht => List.mem_singleton.mp ht ▸ ha, rfl⟩
  | refine test message subject =>
    obtain ⟨probe, hprobe, rfl⟩ := test.exists_probe h
    exact ⟨.refine probe message subject, hprobe, rfl⟩

namespace Schema

theorem assembled_node {shape : Shape} (h : ∀ t ∈ shape.parts, t.Assembled)
    (hnames : shape.fieldNames.Nodup) (label : Label) : (node shape label []).Assembled := by
  cases shape with
  | leaf kind test =>
    obtain ⟨probe, hprobe, rfl⟩ := test.exists_probe h
    exact ⟨.leaf ⟨kind, probe⟩ label, .leaf _ label hprobe, rfl⟩
  | object fields =>
    obtain ⟨fs, hfs, rfl⟩ := exists_fieldAssemblies fields h
    have distinct : Entries.Distinct fs := by
      rw [Shape.fieldNames, fieldSchemas_eq_map] at hnames
      rwa [Entries.Distinct, ← Entries.names_map]
    refine ⟨.object fs label, .object fs label hfs, ?_⟩
    rw [Assembly.object, Entries.ofList_eq_self distinct]
    rfl
  | array element =>
    obtain ⟨a, ha, rfl⟩ := h element (List.mem_singleton.mpr rfl)
    exact ⟨.array a label, .array label ha, rfl⟩
  | enumeration values => exact ⟨.enumeration values label, .enumeration values label, rfl⟩
  | literal value => exact ⟨.literal value label, .literal value label, rfl⟩
  | union candidates =>
    obtain ⟨as, has, rfl⟩ := exists_assemblies candidates h
    exact ⟨.union as label, .union as label has, rfl⟩

theorem Assembled.attach {s : Schema} (h : s.Assembled) {step : Step}
    (hstep : ∀ t ∈ step.parts, t.Assembled) : (s.attach step).Assembled := by
  obtain ⟨a, ha, rfl⟩ := h
  obtain ⟨fitting, hfitting, rfl⟩ := Step.exists_fitting hstep
  exact ⟨a.attach fitting, .attach fitting ha hfitting, Assembly.schema_attach fitting a⟩

theorem Assembled.attachAll {s : Schema} (h : s.Assembled) {steps : List Step}
    (hsteps : ∀ step ∈ steps, ∀ t ∈ step.parts, t.Assembled) : (s.attachAll steps).Assembled := by
  induction steps generalizing s with
  | nil => exact h
  | cons step rest ih =>
    obtain ⟨hstep, hrest⟩ := List.forall_mem_cons.mp hsteps
    exact ih (h.attach hstep) hrest

/-- **Obtainable assemblies come to all well-formed schemas** and to no others. -/
theorem assembled_iff {s : Schema} : s.Assembled ↔ s.WellFormed := by
  constructor
  · rintro ⟨a, ha, rfl⟩
    exact ha.fits.wellFormed
  · induction s using Schema.induction with
    | node shape label steps hshape hsteps =>
      intro h
      have hnode : (node shape label []).Assembled :=
        assembled_node (fun t ht => hshape t ht (h.of_shape ht)) h.self label
      rw [← List.nil_append steps, ← attachAll_node]
      exact hnode.attachAll fun step hs t ht => hsteps step hs t ht (h.of_step hs ht)

end Schema

end Assembled

end SchemaEngine
