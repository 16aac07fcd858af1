import SchemaEngine.Proofs.Evaluation

/-!
# Schemas loosened at a position

A position leads from a schema through fields and elements to schemas inside it, and from
a value to its places there (`Schema.modifyAt`, `Value.places`).  Attaching `optional`,
`nullable` or `nullish` at a position lets more values pass at these places; what is at
stake is everything above, where the output goes into other outputs and can be converted,
refined and piped on.

A node above the position passes its own input down unchanged.  If the input is absent or
null, it has no places, so the node cannot tell the schemas apart; otherwise no rescue
applies, the node accepts only when all its parts do, and these then return what they
returned before (`Schema.eval_modifyAt`).  A default above would break the first half: it
can put an object in place of an absent value, whose new acceptance takes the place of the
rescue that a later `optional` had been.
-/

namespace SchemaEngine

/-! ## Positions -/

/-- From a schema to a schema inside it. -/
inductive Turn where
  /-- To the schema of a field. -/
  | field (name : String)
  /-- To the schema of the items. -/
  | element
deriving DecidableEq

namespace Turn

/-- The schemas inside a shape to which the turn leads. -/
def schemas : Turn → Shape → List Schema
  | .field name, .object fields => (fields.filter fun p => p.1 = name).map Prod.snd
  | .element, .array inner => [inner]
  | _, _ => []

/-- The values inside a value to which the turn leads; a member that an object lacks is
undefined. -/
def values : Turn → Value → List Value
  | .field name, .object members => [(Entries.find? name members).getD .undefined]
  | .element, .array items => items
  | _, _ => []

/-- A shape with the schemas changed to which the turn leads. -/
def modify (f : Schema → Schema) : Turn → Shape → Shape
  | .field name, .object fields =>
    .object (fields.map fun p => (p.1, if p.1 = name then f p.2 else p.2))
  | .element, .array inner => .array (f inner)
  | _, shape => shape

end Turn

/-- A schema changed at a position; elsewhere it stays as it is. -/
def Schema.modifyAt (f : Schema → Schema) : List Turn → Schema → Schema
  | [], s => f s
  | turn :: q, .node shape label steps => .node (turn.modify (modifyAt f q) shape) label steps

/-- The places of a value at a position. -/
def Value.places : List Turn → Value → List Value
  | [], v => [v]
  | turn :: q, v => (turn.values v).flatMap (places q)

/-- No node strictly above the position replaces or converts its input. -/
def Schema.PassesTo : List Turn → Schema → Prop
  | [], _ => True
  | turn :: q, s =>
    (∀ step ∈ s.steps, step.Passing) ∧ ∀ t ∈ turn.schemas s.shape, PassesTo q t

theorem Turn.values_of_nullish {v : Value} (h : v.isNullish = true) (turn : Turn) :
    turn.values v = [] := by
  cases v with
  | undefined => cases turn <;> rfl
  | null => cases turn <;> rfl
  | _ => cases h

/-! ## Signatures -/

section Signatures
variable {f : Schema → Schema} (hf : ∀ t, (f t).signature = t.signature)
include hf

theorem Turn.signature_modify (turn : Turn) (shape : Shape) :
    (turn.modify f shape).signature = shape.signature := by
  cases turn with
  | field name => cases shape <;> rfl
  | element =>
    cases shape with
    | array element => simp only [Turn.modify, Shape.signature, hf]
    | _ => rfl

theorem Schema.signature_modifyAt (q : List Turn) (s : Schema) :
    (s.modifyAt f q).signature = s.signature := by
  induction q generalizing s with
  | nil => exact hf s
  | cons turn q ih =>
    obtain ⟨shape, label, steps⟩ := s
    simp only [Schema.modifyAt, Schema.signature, turn.signature_modify ih]

end Signatures

/-! ## One node -/

section Node
variable {f : Schema → Schema} {o : Options} {turn : Turn} {shape : Shape} {v : Value}

/-- A shape whose changed parts make of its parts what they made before makes the same of
the value; a value that is not taken apart is rejected with the same words. -/
theorem Turn.eval_modify (hf : ∀ t, (f t).signature = t.signature)
    (h : ∀ t ∈ turn.schemas shape, ∀ x ∈ turn.values v, (f t).eval o x = t.eval o x)
    (label : Label) : (turn.modify f shape).eval o label v = shape.eval o label v := by
  cases turn with
  | field name =>
    cases shape with
    | object fields =>
      cases v with
      | object members =>
        have hfields : evalFields o (fields.map fun p => (p.1, if p.1 = name then f p.2 else p.2))
            members = evalFields o fields members := by
          rw [evalFields_eq_map, evalFields_eq_map, List.map_map]
          refine List.map_congr_left fun p hp => ?_
          by_cases hname : p.1 = name
          · have hmem : p.2 ∈ (Turn.field name).schemas (.object fields) :=
              List.mem_map_of_mem (List.mem_filter.mpr ⟨hp, decide_eq_true hname⟩)
            have hx := h p.2 hmem _ (List.mem_singleton.mpr rfl)
            rw [← hname] at hx
            simp only [Function.comp_apply, if_pos hname, hx]
          · simp only [Function.comp_apply, if_neg hname]
        simp only [Turn.modify, Shape.eval, hfields]
      | _ => rfl
    | _ => rfl
  | element =>
    cases shape with
    | array element =>
      have helement := h element (List.mem_singleton.mpr rfl)
      cases v with
      | array items =>
        have hitems : (items.zipIdx.map fun p => (p.2, (f element).eval o p.1)) =
            items.zipIdx.map fun p => (p.2, element.eval o p.1) := by
          refine List.map_congr_left fun p hp => ?_
          rw [helement p.1 (List.fst_mem_of_mem_zipIdx hp)]
        simp only [Turn.modify, Shape.eval, hitems]
      | _ =>
        simp only [Turn.modify, Shape.eval, Failure.typeMismatch, Shape.mismatch,
          Shape.signature, hf]
        rfl
    | _ => rfl

/-- A shape accepts a value only when its schemas accept the parts. -/
theorem Turn.accepted_of_eval {label : Label} {w : Value} (h : shape.eval o label v = .ok w) :
    ∀ t ∈ turn.schemas shape, ∀ x ∈ turn.values v, ∃ y, t.eval o x = .ok y := by
  intro t ht x hx
  cases turn with
  | field name =>
    cases shape with
    | object fields =>
      cases v with
      | object members =>
        obtain ⟨p, hp, rfl⟩ := List.mem_map.mp ht
        obtain ⟨hfield, hname⟩ := List.mem_filter.mp hp
        obtain rfl := of_decide_eq_true hname
        obtain rfl := List.mem_singleton.mp hx
        simp only [Shape.eval] at h
        obtain ⟨ws, hws, -⟩ := map_eq_ok_iff.mp h
        rw [evalFields_eq_map] at hws
        exact accepted_of_settle hws (List.mem_map_of_mem hfield)
      | _ => cases hx
    | _ => cases ht
  | element =>
    cases shape with
    | array element =>
      cases v with
      | array items =>
        obtain rfl := List.mem_singleton.mp ht
        obtain ⟨i, hi⟩ := List.getElem?_of_mem hx
        simp only [Shape.eval] at h
        obtain ⟨ws, hws, -⟩ := map_eq_ok_iff.mp h
        have hitem : (x, i) ∈ items.zipIdx := List.mem_zipIdx_iff_getElem?.mpr hi
        exact accepted_of_settle hws (List.mem_map_of_mem hitem)
      | _ => cases hx
    | _ => cases ht

end Node

/-! ## All nodes above a position -/

/-- **What accepts more at a position accepts more above it**, with the outputs that there
were, and makes no difference to a value whose places there are neither absent nor
null. -/
theorem Schema.eval_modifyAt {f : Schema → Schema} {o : Options}
    (hf : ∀ t, (f t).signature = t.signature)
    (accepts : ∀ t v w, t.eval o v = .ok w → (f t).eval o v = .ok w)
    (same : ∀ t v, v.isNullish = false → (f t).eval o v = t.eval o v) {q : List Turn}
    {s : Schema} (passes : s.PassesTo q) (v : Value) :
    (∀ w, s.eval o v = .ok w → (s.modifyAt f q).eval o v = .ok w) ∧
    ((∀ x ∈ v.places q, x.isNullish = false) → (s.modifyAt f q).eval o v = s.eval o v) := by
  induction q generalizing s v with
  | nil => exact ⟨accepts s v, fun h => same s v (h v (List.mem_singleton.mpr rfl))⟩
  | cons turn q ih =>
    obtain ⟨hpassing, hbelow⟩ := passes
    obtain ⟨shape, label, steps⟩ := s
    have hsteps : ∀ step ∈ steps, step.Passing := hpassing
    -- the parts decide: when they agree, so do the nodes
    have hnode : (∀ t ∈ turn.schemas shape, ∀ x ∈ turn.values v,
        (t.modifyAt f q).eval o x = t.eval o x) →
        ((node shape label steps).modifyAt f (turn :: q)).eval o v =
          (node shape label steps).eval o v := by
      intro h
      simp only [Schema.modifyAt, Schema.eval]
      exact evalSteps_congr hsteps (Turn.eval_modify (Schema.signature_modifyAt hf q) h label)
    constructor
    · intro w hw
      rw [hnode, hw]
      intro t ht x hx
      cases hv : v.isNullish with
      | true =>
        rw [turn.values_of_nullish hv] at hx
        cases hx
      | false =>
        cases hbase : shape.eval o label v with
        | error es =>
          rw [Schema.eval, evalSteps_error hsteps hv hbase] at hw
          cases hw
        | ok u =>
          obtain ⟨y, hy⟩ := Turn.accepted_of_eval hbase t ht x hx
          rw [hy]
          exact (ih (hbelow t ht) x).1 y hy
    · intro hplaces
      refine hnode fun t ht x hx => (ih (hbelow t ht) x).2 fun y hy => ?_
      exact hplaces y (List.mem_flatMap.mpr ⟨x, hx, hy⟩)

/-! ## One more step at a position -/

/-- The step lets absent values or null pass. -/
def Step.Loosening : Step → Prop
  | .optional | .nullable | .nullish => True
  | _ => False

section Loosening
variable {step : Step} (loosening : step.Loosening)
include loosening

theorem Step.Loosening.wrapEval_ok {o : Options} {f : Value → Outcome} {v w : Value}
    (h : f v = .ok w) : step.wrapEval o f v = .ok w := by
  cases step with
  | optional | nullable | nullish => simp only [Step.wrapEval, h, Outcome.rescue]
  | _ => exact loosening.elim

theorem Step.Loosening.passing : step.Passing := by
  cases step with
  | default fallback => exact loosening
  | preprocess f => exact loosening
  | _ => trivial

theorem Step.Loosening.wrapEval_present {o : Options} {f : Value → Outcome} {v : Value}
    (hv : v.isNullish = false) : step.wrapEval o f v = f v := by
  cases h : f v with
  | ok w => exact loosening.wrapEval_ok h
  | error es => exact Step.wrapEval_error loosening.passing hv h

theorem Schema.steady_loosened {s : Schema} (steady : s.Steady) : (s.attach step).Steady := by
  refine All.attach steady ?_ ?_
  · intro t ht
    rw [steps_attach, List.mem_append, List.mem_singleton] at ht
    rcases ht with ht | rfl
    · exact steady.self t ht
    · cases t with
      | default fallback => exact loosening.elim
      | _ => trivial
  · cases step with
    | optional | nullable | nullish =>
      intro t ht
      cases ht
    | _ => exact loosening.elim

end Loosening

theorem Turn.mem_parts_modify {f : Schema → Schema} {turn : Turn} {shape : Shape} {t : Schema}
    (h : t ∈ (turn.modify f shape).parts) : t ∈ shape.parts ∨ ∃ u ∈ shape.parts, t = f u := by
  cases turn with
  | field name =>
    cases shape with
    | object fields =>
      obtain ⟨_, hq, rfl⟩ := List.mem_map.mp h
      obtain ⟨p, hp, rfl⟩ := List.mem_map.mp hq
      have hpart : p.2 ∈ (Shape.object fields).parts := List.mem_map_of_mem hp
      by_cases hname : p.1 = name
      · exact .inr ⟨p.2, hpart, if_pos hname⟩
      · exact .inl (by simpa only [if_neg hname] using hpart)
    | _ => exact .inl h
  | element =>
    cases shape with
    | array inner => exact .inr ⟨inner, List.mem_singleton.mpr rfl, List.mem_singleton.mp h⟩
    | _ => exact .inl h

theorem Schema.steady_modifyAt {f : Schema → Schema} (hf : ∀ t, t.Steady → (f t).Steady)
    (q : List Turn) {s : Schema} (steady : s.Steady) : (s.modifyAt f q).Steady := by
  induction q generalizing s with
  | nil => exact hf s steady
  | cons turn q ih =>
    obtain ⟨shape, label, steps⟩ := s
    refine .intro steady.self fun t ht => ?_
    rcases List.mem_append.mp ht with ht | ht
    · rcases Turn.mem_parts_modify ht with ht | ⟨u, hu, rfl⟩
      · exact steady.of_shape ht
      · exact ih (steady.of_shape hu)
    · obtain ⟨step, hs, ht⟩ := List.mem_flatMap.mp ht
      exact steady.of_step hs ht

/-- **Loosening is conservative.**  When a schema accepts a value, so does the schema with
`optional`, `nullable` or `nullish` attached at a position, and with the same output.  When
the value is neither absent nor null at any of its places there, the two return the same,
failures included. -/
theorem Schema.loosening_conservative {s : Schema} {q : List Turn} {step : Step}
    (steady : s.Steady) (passes : s.PassesTo q) (loosening : step.Loosening) (o : Options)
    (v : Value) (d d' : Draws) :
    let s' := s.modifyAt (attach step) q
    (∀ w, (s.safeParse o v d).1 = .ok w → (s'.safeParse o v d').1 = .ok w) ∧
    ((∀ x ∈ v.places q, x.isNullish = false) →
      (s'.safeParse o v d').1 = (s.safeParse o v d).1) := by
  intro s'
  have steady' : s'.Steady := steady_modifyAt (fun t => steady_loosened loosening) q steady
  have hs : (s.safeParse o v d).1 = s.eval o v := run_yields steady v o d
  have hs' : (s'.safeParse o v d').1 = s'.eval o v := run_yields steady' v o d'
  rw [hs, hs']
  refine eval_modifyAt (signature_attach step) (fun t v w h => ?_) (fun t v hv => ?_) passes v
  · rw [eval_attach]
    exact loosening.wrapEval_ok h
  · rw [eval_attach]
    exact loosening.wrapEval_present hv

/-- Items made nullable under a refined sequence in a nullable object. -/
theorem Schema.loosening_conservative_of_items :
    let atLeastTwo := Condition.items fun xs => decide (2 ≤ xs.length)
    let s := nullable (object [("sizes", refine atLeastTwo (array (leaf .string {}) {}))] {})
    let q := [Turn.field "sizes", Turn.element]
    let s' := s.modifyAt (attach .nullable) q
    let v := fun x => Value.object [("sizes", .array [.text "s", x])]
    (s'.safeParse {} (v (.text "m")) []).1 = .ok (v (.text "m")) ∧
    (s'.safeParse {} (v (.bool true)) []).1 = (s.safeParse {} (v (.bool true)) []).1 ∧
    (∃ es, (s.safeParse {} (v .null) []).1 = .error es) ∧
    (s'.safeParse {} (v .null) []).1 = .ok (v .null) := by
  intro atLeastTwo s q s' v
  have steady : s.Steady := by
    simp [s, Steady, nullable, refine, object, leaf, array, attach, Entries.ofList, Entries.put,
      Shape.parts, Test.parts, Step.parts, Step.Steady, Primitive.string]
  have passes : s.PassesTo q := by
    simp [s, q, PassesTo, nullable, refine, object, leaf, array, attach, Entries.ofList,
      Entries.put, Turn.schemas, Step.Passing, Schema.shape]
  have loosening : Step.Loosening .nullable := trivial
  have conservative := fun x => loosening_conservative steady passes loosening {} (v x) [] []
  refine ⟨(conservative (.text "m")).1 _ rfl, (conservative (.bool true)).2 ?_, ⟨_, rfl⟩, rfl⟩
  simp [v, q, Value.places, Turn.values, Entries.find?, Value.isNullish, Value.isNull,
    Value.isUndefined]

/-- A default above the position: where the schema lets an absent value pass, the loosened
schema puts an empty object in its place. -/
example :
    let s := Schema.optional (Schema.default (.object [])
      (Schema.object [("name", Schema.leaf .string {})] {}))
    let s' := s.modifyAt (Schema.attach .optional) [.field "name"]
    (s.safeParse {} .undefined []).1 = .ok .undefined ∧
    (s'.safeParse {} .undefined []).1 = .ok (.object []) := ⟨rfl, rfl⟩

end SchemaEngine
