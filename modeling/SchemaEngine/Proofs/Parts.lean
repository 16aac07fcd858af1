import SchemaEngine.Schema.Basic

/-!
# The parts of a schema

A schema holds other schemas: its shape does (fields, element, candidates, the
schemas that the test of a leaf runs), and its steps do (the target of a pipe, the
schemas that the test of a refinement runs).  `Schema.parts` lists all of them and
`Schema.children` only the fields and the element, which are the ones that a path
into the input can name.

A property of schemas that passes from all parts of a schema to the schema itself
holds of every schema (`Schema.induction`).  It is the only induction over schemas
that the theory needs: what a parse does with a list of parts is shown by an
induction over that list, given the property for its members.

`Schema.All below p` says that a property holds of a schema and of everything
reached from it through `below`.
-/

namespace SchemaEngine

/-- The schemas that a test runs. -/
def Test.parts : Test → List Schema
  | .condition _ => []
  | .accepted candidates => candidates
  | .not test => test.parts

/-- The schemas that a step runs. -/
def Step.parts : Step → List Schema
  | .pipe next => [next]
  | .refine test _ _ => test.parts
  | _ => []

/-- The schemas that a shape runs. -/
def Shape.parts : Shape → List Schema
  | .leaf _ test => test.parts
  | .object fields => fields.map Prod.snd
  | .array element => [element]
  | .enumeration _ => []
  | .literal _ => []
  | .union candidates => candidates

/-- The schemas of the fields or of the element. -/
def Shape.children : Shape → List Schema
  | .object fields => fields.map Prod.snd
  | .array element => [element]
  | _ => []

/-- The names of the fields. -/
def Shape.fieldNames : Shape → List String
  | .object fields => Entries.names fields
  | _ => []

namespace Schema

/-- The schemas that a schema runs. -/
def parts (s : Schema) : List Schema := s.shape.parts ++ s.steps.flatMap Step.parts

/-- The schemas of the fields or of the element. -/
def children (s : Schema) : List Schema := s.shape.children

section Node
variable (shape : Shape) (label : Label) (steps : List Step)

@[simp] theorem shape_node : (node shape label steps).shape = shape := rfl

@[simp] theorem steps_node : (node shape label steps).steps = steps := rfl

@[simp] theorem parts_node :
    (node shape label steps).parts = shape.parts ++ steps.flatMap Step.parts := rfl

@[simp] theorem children_node : (node shape label steps).children = shape.children := rfl

end Node

end Schema

/-! ## Induction -/

theorem Test.sizeOf_lt_of_mem_parts : ∀ {test : Test} {t : Schema},
    t ∈ test.parts → sizeOf t < sizeOf test
  | .accepted candidates, t, h => by
      have := List.sizeOf_lt_of_mem (show t ∈ candidates from h)
      simp only [Test.accepted.sizeOf_spec]
      omega
  | .not test, t, h => by
      have := Test.sizeOf_lt_of_mem_parts (show t ∈ test.parts from h)
      simp only [Test.not.sizeOf_spec]
      omega

theorem Step.sizeOf_lt_of_mem_parts {step : Step} {t : Schema} (h : t ∈ step.parts) :
    sizeOf t < sizeOf step := by
  cases step with
  | pipe next =>
    obtain rfl := List.mem_singleton.mp h
    simp only [Step.pipe.sizeOf_spec]
    omega
  | refine test message subject =>
    have := Test.sizeOf_lt_of_mem_parts (show t ∈ test.parts from h)
    simp only [Step.refine.sizeOf_spec]
    omega
  | _ => cases h

theorem Shape.sizeOf_lt_of_mem_parts {shape : Shape} {t : Schema} (h : t ∈ shape.parts) :
    sizeOf t < sizeOf shape := by
  cases shape with
  | leaf kind test =>
    have := Test.sizeOf_lt_of_mem_parts (show t ∈ test.parts from h)
    simp only [Shape.leaf.sizeOf_spec]
    omega
  | object fields =>
    obtain ⟨⟨name, s⟩, hf, rfl⟩ := List.mem_map.mp h
    have := List.sizeOf_lt_of_mem hf
    simp only [Prod.mk.sizeOf_spec] at this
    simp only [Shape.object.sizeOf_spec]
    omega
  | array element =>
    obtain rfl := List.mem_singleton.mp h
    simp only [Shape.array.sizeOf_spec]
    omega
  | union candidates =>
    have := List.sizeOf_lt_of_mem (show t ∈ candidates from h)
    simp only [Shape.union.sizeOf_spec]
    omega
  | _ => cases h

namespace Schema

theorem sizeOf_lt_of_mem_parts {s t : Schema} (h : t ∈ s.parts) : sizeOf t < sizeOf s := by
  obtain ⟨shape, label, steps⟩ := s
  simp only [Schema.node.sizeOf_spec]
  rcases List.mem_append.mp h with h | h
  · have := Shape.sizeOf_lt_of_mem_parts (show t ∈ shape.parts from h)
    omega
  · obtain ⟨step, hs, ht⟩ := List.mem_flatMap.mp h
    have hstep := List.sizeOf_lt_of_mem (show step ∈ steps from hs)
    have := Step.sizeOf_lt_of_mem_parts ht
    omega

theorem mem_parts_of_shape {shape : Shape} {label : Label} {steps : List Step} {t : Schema}
    (h : t ∈ shape.parts) : t ∈ (node shape label steps).parts :=
  List.mem_append_left _ h

theorem mem_parts_of_step {shape : Shape} {label : Label} {steps : List Step} {step : Step}
    {t : Schema} (hs : step ∈ steps) (h : t ∈ step.parts) :
    t ∈ (node shape label steps).parts :=
  List.mem_append_right _ (List.mem_flatMap.mpr ⟨step, hs, h⟩)

/-- **Induction over schemas**: a property that holds of a schema as soon as it holds
of the parts of its shape and of the parts of its steps holds of every schema. -/
@[elab_as_elim]
theorem induction {motive : Schema → Prop}
    (node : ∀ shape label steps, (∀ t ∈ shape.parts, motive t) →
      (∀ step ∈ steps, ∀ t ∈ step.parts, motive t) → motive (.node shape label steps)) :
    ∀ s, motive s
  | .node shape label steps =>
      node shape label steps
        (fun t ht =>
          have := sizeOf_lt_of_mem_parts (@mem_parts_of_shape shape label steps t ht)
          induction node t)
        (fun step hs t ht =>
          have := sizeOf_lt_of_mem_parts (@mem_parts_of_step shape label steps step t hs ht)
          induction node t)
termination_by s => sizeOf s
decreasing_by all_goals assumption

/-! ## Properties of a schema and of everything in it -/

/-- A property holds of a schema and of every schema reached from it through `below`. -/
inductive All (below : Schema → List Schema) (p : Schema → Prop) : Schema → Prop
  | intro {s : Schema} : p s → (∀ t ∈ below s, All below p t) → All below p s

variable {below : Schema → List Schema} {p q : Schema → Prop} {s t : Schema}

theorem All.self (h : s.All below p) : p s := by
  cases h with | intro hp _ => exact hp

theorem All.of_mem (h : s.All below p) (ht : t ∈ below s) : t.All below p := by
  cases h with | intro _ hb => exact hb t ht

theorem All.of_shape {shape : Shape} {label : Label} {steps : List Step}
    (h : (node shape label steps).All parts p) (ht : t ∈ shape.parts) : t.All parts p :=
  h.of_mem (mem_parts_of_shape ht)

theorem All.of_step {shape : Shape} {label : Label} {steps : List Step} {step : Step}
    (h : (node shape label steps).All parts p) (hs : step ∈ steps) (ht : t ∈ step.parts) :
    t.All parts p :=
  h.of_mem (mem_parts_of_step hs ht)

theorem mem_parts_of_mem_children (h : t ∈ s.children) : t ∈ s.parts := by
  obtain ⟨shape, label, steps⟩ := s
  refine List.mem_append_left _ ?_
  cases shape with
  | object fields => exact h
  | array element => exact h
  | _ => cases h

/-- The definition, as a computation rule for schemas that are spelled out. -/
@[simp] theorem all_node {shape : Shape} {label : Label} {steps : List Step} :
    (node shape label steps).All below p ↔
      p (node shape label steps) ∧ ∀ t ∈ below (node shape label steps), t.All below p :=
  ⟨fun h => ⟨h.self, fun _ => h.of_mem⟩, fun h => .intro h.1 h.2⟩

/-- A property of all schemas holds of everything in a schema. -/
theorem all_parts (hp : ∀ s, p s) (s : Schema) : s.All parts p := by
  induction s using Schema.induction with
  | node shape label steps hshape hsteps =>
    refine .intro (hp _) fun t ht => ?_
    rcases List.mem_append.mp ht with ht | ht
    · exact hshape t ht
    · obtain ⟨step, hs, ht⟩ := List.mem_flatMap.mp ht
      exact hsteps step hs t ht

/-! ## One more step -/

theorem mem_parts_attach {step : Step} (h : t ∈ (s.attach step).parts) :
    t ∈ s.parts ∨ t ∈ step.parts := by
  rw [parts, shape_attach, steps_attach, List.flatMap_append, ← List.append_assoc] at h
  rcases List.mem_append.mp h with h | h
  · exact .inl h
  · exact .inr (by simpa using h)

/-- A property of schemas passes to a schema with one more step when it does so for the
schema itself and holds of the parts of the step. -/
theorem All.attach {step : Step} (h : s.All parts p) (hself : p (s.attach step))
    (hstep : ∀ t ∈ step.parts, t.All parts p) : (s.attach step).All parts p := by
  refine .intro hself fun t ht => ?_
  rcases mem_parts_attach ht with ht | ht
  · exact h.of_mem ht
  · exact hstep t ht

/-! ## Well-formed schemas -/

/-- Every object in the schema declares each of its fields once. -/
def WellFormed (s : Schema) : Prop := s.All parts fun t => t.shape.fieldNames.Nodup

theorem WellFormed.attach {step : Step} (h : s.WellFormed)
    (hstep : ∀ t ∈ step.parts, t.WellFormed) : (s.attach step).WellFormed := by
  refine All.attach h ?_ hstep
  rw [shape_attach]
  exact h.self

/-- Objects are well formed whatever list of fields they are made from. -/
theorem wellFormed_object {fields : List (String × Schema)} {label : Label}
    (h : ∀ p ∈ fields, p.2.WellFormed) : (object fields label).WellFormed := by
  refine .intro (Entries.distinct_ofList fields) fun t ht => ?_
  rw [parts, List.mem_append] at ht
  rcases ht with ht | ht
  · obtain ⟨p, hp, rfl⟩ := List.mem_map.mp ht
    exact h p (Entries.mem_of_mem_ofList hp)
  · cases ht

end Schema
end SchemaEngine
