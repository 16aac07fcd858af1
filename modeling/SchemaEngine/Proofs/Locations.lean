import Mathlib.Data.List.Nodup
import SchemaEngine.Proofs.Evaluation
import SchemaEngine.Proofs.Reports

/-!
# Where collected failures come from

A *location* of a value in a schema is a path that leads somewhere in both: through
the fields of objects that are objects in the value, absent members included, and
through the items of sequences (`locate`).  `Schema.locations` lists the locations in
the order in which a parse comes to them.

Take a schema none of whose nodes on such paths converts its input or pipes its
output (`Schema.Plain`).  Then every failure collected is a failure of one location
itself, seen from the outside, and every such failure is collected
(`Schema.eval_failures`).  Two facts about a node carry the induction: once a part
has failed, the failures of the parts are the failures of the node, because an object
or a sequence is neither absent nor null and no rescue applies; and when no part has
failed, the node fails by itself or not at all.
-/

namespace SchemaEngine

/-! ## Locations -/

/-- Where a path leads in a schema and in a value. -/
def locate : List Segment → Schema → Value → Option (Schema × Value)
  | [], s, v => some (s, v)
  | .field name :: p, s, v =>
    match s.shape, v with
    | .object fields, .object _ => do locate p (← Entries.find? name fields) (v.member name)
    | _, _ => none
  | .index i :: p, s, v =>
    match s.shape, v with
    | .array element, .array items => do locate p element (← items[i]?)
    | _, _ => none

/-- A schema and a value at the end of one path. -/
structure Location where
  /-- The segments of the path, outermost first. -/
  path : List Segment
  /-- The schema at its end. -/
  schema : Schema
  /-- The value at its end. -/
  value : Value

/-- A location as the enclosing value sees it. -/
def Location.under (s : Segment) (l : Location) : Location := { l with path := s :: l.path }

mutual

/-- The locations of a value in a schema, in the order in which a parse comes to them. -/
def Schema.locations : Schema → Value → List Location
  | .node shape label steps, v => ⟨[], .node shape label steps, v⟩ :: shape.locationsBelow v

/-- The locations in the parts of a value. -/
def Shape.locationsBelow : Shape → Value → List Location
  | .object fields, v =>
    match v with
    | .object members => fieldLocations fields members
    | _ => []
  | .array element, v =>
    match v with
    | .array items =>
      items.zipIdx.flatMap fun p => (element.locations p.1).map (Location.under (.index p.2))
    | _ => []
  | _, _ => []

/-- The locations in the members of an object. -/
def fieldLocations : List (String × Schema) → Entries Value → List Location
  | [], _ => []
  | (name, s) :: rest, members =>
    (s.locations ((members.find? name).getD .undefined)).map (Location.under (.field name))
      ++ fieldLocations rest members

end

/-! ## Failures of a location -/

/-- The failures of a result. -/
def failures {α : Type} : Except Failures α → List Failure
  | .ok _ => []
  | .error es => es.toList

/-- A failure as the value that the segments lead away from sees it. -/
def Failure.within (p : List Segment) (e : Failure) : Failure := p.foldr Failure.under e

/-- The failures of the value itself at a location, as seen from the outside. -/
def Location.failures (l : Location) : List Failure :=
  ((SchemaEngine.failures (l.schema.eval .collectAll l.value)).filter (·.path.isRoot)).map
    (Failure.within l.path)

@[simp] theorem failures_ok {α : Type} (x : α) : failures (.ok x) = [] := rfl

@[simp] theorem failures_error {α : Type} (es : Failures) :
    failures (α := α) (.error es) = es.toList := rfl

@[simp] theorem failures_map {α β : Type} (f : α → β) (r : Except Failures α) :
    failures (r.map f) = failures r := by
  cases r <;> rfl

theorem Failure.path_within (p : List Segment) (e : Failure) :
    (e.within p).path.segments = p ++ e.path.segments := by
  induction p with
  | nil => rfl
  | cons s p ih => exact congrArg (s :: ·) ih

theorem Location.failures_under (s : Segment) (l : Location) :
    (l.under s).failures = l.failures.map (Failure.under s) := by
  simp only [Location.failures, Location.under, List.map_map]
  rfl

/-- The failures of collected parts are the failures of the parts, in order. -/
theorem failures_settle {ι : Type} (segment : ι → Segment) (parts : List (ι × Outcome)) :
    failures (settle .collectAll segment parts) =
      parts.flatMap fun p => (failures p.2).map (Failure.under (segment p.1)) := by
  induction parts with
  | nil => rfl
  | cons part rest ih =>
    obtain ⟨i, r⟩ := part
    cases r with
    | ok w => simp [settle, ih]
    | error es =>
      rw [List.flatMap_cons, ← ih]
      simp only [settle, Options.collectAll]
      cases settle ⟨false⟩ segment rest <;> simp

/-! ## Steps that convert no input and pipe no output -/

/-- The step neither changes the input of the layer below nor pipes the output on. -/
def Step.Plain : Step → Prop
  | .default _ => False
  | .preprocess _ => False
  | .pipe _ => False
  | _ => True

theorem Step.Plain.passing {step : Step} (plain : step.Plain) : step.Passing := by
  cases step with
  | default fallback => exact plain
  | preprocess c => exact plain
  | _ => trivial

/-- No node on a path through fields and elements has another step. -/
def Schema.Plain (s : Schema) : Prop :=
  s.All Schema.children fun t => ∀ step ∈ t.steps, step.Plain

/-- A failure, if there is one, is one failure of the value itself. -/
def Outcome.OfItself : Outcome → Prop
  | .ok _ => True
  | .error es => ∃ e : Failure, es = .single e ∧ e.path = .root

section Steps
variable {o : Options} {f : Value → Outcome} {v : Value}

theorem Step.wrapEval_ofItself {step : Step} (plain : step.Plain) (h : (f v).OfItself) :
    (step.wrapEval o f v).OfItself := by
  have hrescue : ∀ b x, (Outcome.rescue b x (f v)).OfItself := by
    intro b x
    rcases Outcome.rescue_eq b x (f v) with hr | hr
    · rw [hr]
      trivial
    · rw [hr]
      exact h
  cases step with
  | default fallback => exact plain.elim
  | preprocess c => exact plain.elim
  | pipe next => exact plain.elim
  | optional => exact hrescue _ _
  | nullable => exact hrescue _ _
  | nullish => exact hrescue _ _
  | transform c =>
    simp only [Step.wrapEval]
    cases hr : f v with
    | ok w => trivial
    | error es => rw [hr] at h; exact h
  | refine test message subject =>
    simp only [Step.wrapEval]
    cases hr : f v with
    | ok w =>
      simp only
      split
      · trivial
      · exact ⟨_, rfl, rfl⟩
    | error es => rw [hr] at h; exact h

theorem evalSteps_ofItself {steps : List Step} (plain : ∀ step ∈ steps, step.Plain)
    (h : (f v).OfItself) : (evalSteps o steps f v).OfItself := by
  induction steps generalizing f with
  | nil => exact h
  | cons step outer ih =>
    exact ih (fun s hs => plain s (List.mem_cons_of_mem _ hs))
      (Step.wrapEval_ofItself (plain step (List.mem_cons_self ..)) h)

end Steps

/-! ## One node -/

/-- The failures of the parts of a value, in order. -/
def Shape.partFailures : Shape → Value → List Failure
  | .object fields, .object members =>
    (evalFields .collectAll fields members).flatMap fun p =>
      (failures p.2).map (Failure.under (.field p.1))
  | .array element, .array items =>
    items.zipIdx.flatMap fun p =>
      (failures (element.eval .collectAll p.1)).map (Failure.under (.index p.2))
  | _, _ => []

theorem failures_object (fields : List (String × Schema)) (members : Entries Value)
    (label : Label) :
    failures ((Shape.object fields).eval .collectAll label (.object members)) =
      (Shape.object fields).partFailures (.object members) := by
  simp only [Shape.eval, failures_map, failures_settle, Shape.partFailures]

theorem failures_array (element : Schema) (items : List Value) (label : Label) :
    failures ((Shape.array element).eval .collectAll label (.array items)) =
      (Shape.array element).partFailures (.array items) := by
  simp only [Shape.eval, failures_map, failures_settle, Shape.partFailures, List.flatMap_map]

/-- A part that fails makes the shape fail with the failures of the parts, and only
values that are taken apart have parts. -/
theorem Shape.failures_of_parts {shape : Shape} {v : Value} (h : shape.partFailures v ≠ [])
    (label : Label) :
    v.isNullish = false ∧ failures (shape.eval .collectAll label v) = shape.partFailures v := by
  cases shape with
  | object fields =>
    cases v with
    | object members => exact ⟨rfl, failures_object fields members label⟩
    | _ => exact absurd rfl h
  | array element =>
    cases v with
    | array items => exact ⟨rfl, failures_array element items label⟩
    | _ => exact absurd rfl h
  | _ => exact absurd rfl h

theorem ofItself_of_failures_eq_nil {r : Outcome} (h : failures r = []) : r.OfItself := by
  cases r with
  | ok w => trivial
  | error es => cases h

/-- When no part fails, the shape fails by itself or not at all. -/
theorem Shape.eval_ofItself {shape : Shape} {v : Value} (h : shape.partFailures v = [])
    (label : Label) : (shape.eval .collectAll label v).OfItself := by
  rcases shape.eval_cases label v with ⟨fields, members, rfl, rfl⟩ | ⟨element, items, rfl, rfl⟩ |
    ⟨candidates, rfl⟩ | ⟨accepted, heval⟩
  · exact ofItself_of_failures_eq_nil ((failures_object fields members label).trans h)
  · exact ofItself_of_failures_eq_nil ((failures_array element items label).trans h)
  · simp only [Shape.eval]
    cases evalFirst .collectAll candidates v with
    | some w => trivial
    | none => exact ⟨_, rfl, rfl⟩
  · rw [heval]
    cases accepted with
    | true => trivial
    | false => exact ⟨_, rfl, rfl⟩

theorem Shape.partFailures_not_root (shape : Shape) (v : Value) :
    ∀ e ∈ shape.partFailures v, e.path.isRoot = false := by
  intro e he
  unfold Shape.partFailures at he
  split at he
  · obtain ⟨p, -, hp⟩ := List.mem_flatMap.mp he
    obtain ⟨f, -, rfl⟩ := List.mem_map.mp hp
    rfl
  · obtain ⟨p, -, hp⟩ := List.mem_flatMap.mp he
    obtain ⟨f, -, rfl⟩ := List.mem_map.mp hp
    rfl
  · cases he

theorem isRoot_of_ofItself {r : Outcome} (h : r.OfItself) :
    ∀ e ∈ failures r, e.path.isRoot = true := by
  cases r with
  | ok w => exact fun e he => absurd he List.not_mem_nil
  | error es =>
    obtain ⟨f, rfl, hf⟩ := h
    intro e he
    obtain rfl := List.mem_singleton.mp he
    rw [hf]
    rfl

/-- **A plain node fails by itself or in its parts, and not both.** -/
theorem Schema.failures_split {s : Schema} (plain : ∀ step ∈ s.steps, step.Plain) (v : Value) :
    failures (s.eval .collectAll v) =
      (failures (s.eval .collectAll v)).filter (·.path.isRoot) ++ s.shape.partFailures v := by
  obtain ⟨shape, label, steps⟩ := s
  by_cases h : shape.partFailures v = []
  -- no part fails: the steps see an output, or one failure of the value itself
  · have hitself : ((node shape label steps).eval .collectAll v).OfItself := by
      rw [Schema.eval]
      exact evalSteps_ofItself plain (Shape.eval_ofItself h label)
    have hnil : (node shape label steps).shape.partFailures v = [] := h
    rw [List.filter_eq_self.mpr (isRoot_of_ofItself hitself), hnil, List.append_nil]
  -- a part fails: the value has parts, so it is not rescued, and no step adds a failure
  · obtain ⟨hv, hparts⟩ := Shape.failures_of_parts h label
    have hsteps : ∀ step ∈ steps, step.Plain := plain
    have hall : failures ((node shape label steps).eval .collectAll v) =
        shape.partFailures v := by
      cases hr : shape.eval .collectAll label v with
      | ok w =>
        rw [hr] at hparts
        exact absurd hparts.symm h
      | error es =>
        rw [Schema.eval, evalSteps_error (fun step hs => (hsteps step hs).passing) hv hr,
          ← hparts, hr]
    have hnone : (shape.partFailures v).filter (·.path.isRoot) = [] := by
      refine List.filter_eq_nil_iff.mpr fun e he => ?_
      rw [Shape.partFailures_not_root shape v e he]
      exact Bool.false_ne_true
    rw [hall, hnone]
    rfl

/-! ## All locations -/

theorem fieldLocations_failures {fields : List (String × Schema)} (members : Entries Value)
    (h : ∀ p ∈ fields, ∀ w,
      failures (p.2.eval .collectAll w) = (p.2.locations w).flatMap Location.failures) :
    (fieldLocations fields members).flatMap Location.failures =
      (evalFields .collectAll fields members).flatMap fun p =>
        (failures p.2).map (Failure.under (.field p.1)) := by
  induction fields with
  | nil => rfl
  | cons field rest ih =>
    obtain ⟨name, s⟩ := field
    have hs := h (name, s) (List.mem_cons_self ..) ((members.find? name).getD .undefined)
    have hrest := ih fun p hp => h p (List.mem_cons_of_mem _ hp)
    simp only [fieldLocations, evalFields, List.flatMap_append, List.flatMap_cons,
      List.flatMap_map, Location.failures_under, hrest, hs, List.map_flatMap]

theorem Shape.locationsBelow_failures {shape : Shape} (v : Value)
    (h : ∀ t ∈ shape.children, ∀ w,
      failures (t.eval .collectAll w) = (t.locations w).flatMap Location.failures) :
    (shape.locationsBelow v).flatMap Location.failures = shape.partFailures v := by
  cases shape with
  | object fields =>
    cases v with
    | object members =>
      exact fieldLocations_failures members fun p hp => h p.2 (List.mem_map_of_mem hp)
    | _ => rfl
  | array element =>
    cases v with
    | array items =>
      have helement := h element (List.mem_singleton.mpr rfl)
      simp only [Shape.locationsBelow, Shape.partFailures, List.flatMap_assoc, List.flatMap_map,
        Location.failures_under, helement, List.map_flatMap]
    | _ => rfl
  | _ => rfl

/-- **The failures collected are the failures of the locations themselves**, in the
order of the locations. -/
theorem Schema.eval_failures {s : Schema} (plain : s.Plain) (v : Value) :
    failures (s.eval .collectAll v) = (s.locations v).flatMap Location.failures := by
  induction plain generalizing v with
  | @intro s plain _ ih =>
    rw [Schema.failures_split plain v]
    obtain ⟨shape, label, steps⟩ := s
    have hbelow : (shape.locationsBelow v).flatMap Location.failures = shape.partFailures v :=
      Shape.locationsBelow_failures v ih
    rw [Schema.locations, List.flatMap_cons, hbelow]
    refine congrArg (· ++ shape.partFailures v) ?_
    exact (List.map_id _).symm

/-! ## Locations and paths -/

theorem mem_fieldLocations {fields : List (String × Schema)} {members : Entries Value}
    {l : Location} : l ∈ fieldLocations fields members ↔ ∃ p ∈ fields,
      ∃ l' ∈ p.2.locations ((members.find? p.1).getD .undefined), l'.under (.field p.1) = l := by
  induction fields with
  | nil => simp [fieldLocations]
  | cons field rest ih =>
    simp only [fieldLocations, List.mem_append, List.mem_map, ih, List.exists_mem_cons_iff]

/-- Every listed location is where its path leads. -/
theorem Schema.locate_of_mem {s : Schema} (wf : s.WellFormed) {v : Value} {l : Location}
    (h : l ∈ s.locations v) : locate l.path s v = some (l.schema, l.value) := by
  induction wf generalizing v l with
  | @intro s distinct _ ih =>
    obtain ⟨shape, label, steps⟩ := s
    rcases List.mem_cons.mp h with rfl | h
    · rfl
    · cases shape with
      | object fields =>
        cases v with
        | object members =>
          obtain ⟨p, hp, l', hl', rfl⟩ := mem_fieldLocations.mp h
          have hfind : Entries.find? p.1 fields = some p.2 := Entries.find?_of_mem distinct hp
          have hpart : p.2 ∈ (node (.object fields) label steps).parts :=
            List.mem_append_left _ (List.mem_map_of_mem hp)
          have hl := ih p.2 hpart hl'
          simp only [Location.under, locate, shape, hfind, Option.bind_eq_bind, Option.bind_some]
          exact hl
        | _ => cases h
      | array element =>
        cases v with
        | array items =>
          obtain ⟨⟨w, i⟩, hp, hl⟩ := List.mem_flatMap.mp h
          obtain ⟨l', hl', rfl⟩ := List.mem_map.mp hl
          have hitem : items[i]? = some w := List.mem_zipIdx_iff_getElem?.mp hp
          have hpart : element ∈ (node (.array element) label steps).parts :=
            List.mem_append_left _ (List.mem_singleton.mpr rfl)
          have hl := ih element hpart hl'
          simp only [Location.under, locate, shape, hitem, Option.bind_eq_bind, Option.bind_some]
          exact hl
        | _ => cases h
      | _ => cases h

/-- Where a path leads is a listed location. -/
theorem Schema.mem_locations {p : List Segment} {s t : Schema} {v w : Value}
    (h : locate p s v = some (t, w)) : ⟨p, t, w⟩ ∈ s.locations v := by
  induction p generalizing s v with
  | nil =>
    obtain ⟨rfl, rfl⟩ := Prod.mk.inj (Option.some.inj h)
    obtain ⟨shape, label, steps⟩ := s
    exact List.mem_cons_self ..
  | cons segment p ih =>
    obtain ⟨shape, label, steps⟩ := s
    refine List.mem_cons_of_mem _ ?_
    cases segment with
    | field name =>
      cases shape with
      | object fields =>
        cases v with
        | object members =>
          obtain ⟨u, hu, hl⟩ := Option.bind_eq_some_iff.mp h
          exact mem_fieldLocations.mpr
            ⟨(name, u), Entries.mem_of_find? hu, ⟨p, t, w⟩, ih hl, rfl⟩
        | _ => cases h
      | _ => cases h
    | index i =>
      cases shape with
      | array element =>
        cases v with
        | array items =>
          obtain ⟨x, hx, hl⟩ := Option.bind_eq_some_iff.mp h
          exact List.mem_flatMap.mpr ⟨(x, i), List.mem_zipIdx_iff_getElem?.mpr hx,
            List.mem_map.mpr ⟨⟨p, t, w⟩, ih hl, rfl⟩⟩
        | _ => cases h
      | _ => cases h

theorem child_of_locate {segment : Segment} {p : List Segment} {s t : Schema} {v w : Value}
    (h : locate (segment :: p) s v = some (t, w)) :
    ∃ u ∈ s.children, ∃ x, locate p u x = some (t, w) := by
  obtain ⟨shape, label, steps⟩ := s
  cases segment with
  | field name =>
    cases shape with
    | object fields =>
      cases v with
      | object members =>
        obtain ⟨u, hu, hl⟩ := Option.bind_eq_some_iff.mp h
        exact ⟨u, List.mem_map_of_mem (Entries.mem_of_find? hu), _, hl⟩
      | _ => cases h
    | _ => cases h
  | index i =>
    cases shape with
    | array element =>
      cases v with
      | array items =>
        obtain ⟨x, -, hl⟩ := Option.bind_eq_some_iff.mp h
        exact ⟨element, List.mem_singleton.mpr rfl, x, hl⟩
      | _ => cases h
    | _ => cases h

/-- What holds of everything in a schema holds of everything where a path leads. -/
theorem Schema.All.of_locate {q : Schema → Prop} {p : List Segment} {s t : Schema}
    {v w : Value} (h : s.All parts q) (hl : locate p s v = some (t, w)) : t.All parts q := by
  induction p generalizing s v with
  | nil =>
    obtain ⟨rfl, rfl⟩ := Prod.mk.inj (Option.some.inj hl)
    exact h
  | cons segment p ih =>
    obtain ⟨u, hu, x, hx⟩ := child_of_locate hl
    exact ih (h.of_mem (Schema.mem_parts_of_mem_children hu)) hx

/-! ## What is collected -/

/-- A failure of the value itself is its only failure. -/
theorem Schema.eval_eq_single {s : Schema} (wf : s.WellFormed) (steady : s.Steady) {v : Value}
    {o : Options} {e : Failure} (he : e ∈ failures (s.eval o v)) (hroot : e.path = .root) :
    s.eval o v = .error (.single e) := by
  have hrun := Schema.run_reported wf (Schema.all_parts (fun _ _ _ => trivial) s) v o []
  rw [Schema.run_yields steady v o []] at hrun
  cases hr : s.eval o v with
  | ok w =>
    rw [hr] at he
    cases he
  | error es =>
    rw [hr] at he hrun
    rw [Reported.alone hrun he hroot]

theorem Schema.paths_nodup {s : Schema} (wf : s.WellFormed) (steady : s.Steady) (v : Value)
    (o : Options) : ((failures (s.eval o v)).map Failure.path).Nodup := by
  have hrun := Schema.run_reported wf (Schema.all_parts (fun _ _ _ => trivial) s) v o []
  rw [Schema.run_yields steady v o []] at hrun
  cases hr : s.eval o v with
  | ok w => exact List.Pairwise.nil
  | error es =>
    rw [hr] at hrun
    exact List.pairwise_map.mpr ((Reported.apart hrun).imp Path.Apart.ne)

theorem Failure.path_within_of_root {e : Failure} (h : e.path = .root) (p : List Segment) :
    (e.within p).path = ⟨p⟩ := by
  have hsegments := Failure.path_within p e
  rw [h, show Path.root.segments = [] from rfl, List.append_nil] at hsegments
  exact congrArg Path.mk hsegments

/-- Soundness: a failure that is collected is the only failure of some location, seen from
the outside. -/
theorem Schema.location_of_collected {s : Schema} (wf : s.WellFormed) (steady : s.Steady)
    (plain : s.Plain) {v : Value} {e : Failure} (he : e ∈ failures (s.eval .collectAll v)) :
    ∃ t w e₀, locate e.path.segments s v = some (t, w) ∧
      t.eval .collectAll w = .error (.single e₀) ∧ e₀.path = .root ∧
      e = e₀.within e.path.segments := by
  rw [Schema.eval_failures plain v] at he
  obtain ⟨l, hl, he⟩ := List.mem_flatMap.mp he
  obtain ⟨e₀, he₀, rfl⟩ := List.mem_map.mp he
  obtain ⟨hmem, hroot⟩ := List.mem_filter.mp he₀
  have hroot : e₀.path = .root := Path.isRoot_iff.mp hroot
  have hlocate := Schema.locate_of_mem wf hl
  -- the path of the failure is the path of the location, as nothing lies behind it
  rw [Failure.path_within_of_root hroot]
  exact ⟨l.schema, l.value, e₀, hlocate,
    Schema.eval_eq_single (wf.of_locate hlocate) (steady.of_locate hlocate) hmem hroot, hroot, rfl⟩

/-- Completeness: a failure of a location itself is collected, and no other failure has its
path. -/
theorem Schema.collected_of_location {s t : Schema} (wf : s.WellFormed) (steady : s.Steady)
    (plain : s.Plain) {v w : Value} {p : List Segment} {e₀ : Failure}
    (hl : locate p s v = some (t, w)) (he₀ : e₀ ∈ failures (t.eval .collectAll w))
    (hroot : e₀.path = .root) :
    e₀.within p ∈ failures (s.eval .collectAll v) ∧
      ((failures (s.eval .collectAll v)).map Failure.path).count ⟨p⟩ = 1 := by
  have hmem : e₀.within p ∈ failures (s.eval .collectAll v) := by
    rw [Schema.eval_failures plain v]
    refine List.mem_flatMap.mpr ⟨_, Schema.mem_locations hl, ?_⟩
    exact List.mem_map_of_mem (List.mem_filter.mpr ⟨he₀, Path.isRoot_iff.mpr hroot⟩)
  refine ⟨hmem, List.count_eq_one_of_mem (Schema.paths_nodup wf steady v _) ?_⟩
  rw [← Failure.path_within_of_root hroot p]
  exact List.mem_map_of_mem hmem

/-- **What is collected is what fails at a location itself.**  Every failure collected
lies at a location at which the schema, run alone, reports one failure of the value
itself, and is that failure with the segments of the path in front.  Every location
that fails so contributes that failure, and no other failure has its path.  The
failures come in the order of the locations. -/
theorem Schema.collected_failures {s : Schema} (wf : s.WellFormed) (steady : s.Steady)
    (plain : s.Plain) (v : Value) (d : Draws) :
    let collected := failures (s.safeParse .collectAll v d).1
    (∀ e ∈ collected, ∃ t w e₀, locate e.path.segments s v = some (t, w) ∧
      (∀ d', (t.safeParse .collectAll w d').1 = .error (.single e₀)) ∧
      e₀.path = .root ∧ e = e₀.within e.path.segments) ∧
    (∀ p t w d' e₀, locate p s v = some (t, w) →
      e₀ ∈ failures (t.safeParse .collectAll w d').1 → e₀.path = .root →
      e₀.within p ∈ collected ∧ (collected.map Failure.path).count ⟨p⟩ = 1) ∧
    collected = (s.locations v).flatMap fun l =>
      ((failures (l.schema.safeParse .collectAll l.value d).1).filter (·.path.isRoot)).map
        (Failure.within l.path) := by
  intro collected
  -- parsing at a location is evaluation there
  have heval : ∀ {p t w}, locate p s v = some (t, w) → ∀ d,
      (t.safeParse .collectAll w d).1 = t.eval .collectAll w :=
    fun h d => Schema.run_yields (steady.of_locate h) _ _ d
  have hcollected : collected = failures (s.eval .collectAll v) :=
    congrArg failures (heval (p := []) rfl d)
  rw [hcollected]
  refine ⟨fun e he => ?_, fun p t w d' e₀ hl he₀ hroot => ?_, ?_⟩
  · obtain ⟨t, w, e₀, hl, he₀, hroot, hwithin⟩ :=
      Schema.location_of_collected wf steady plain he
    exact ⟨t, w, e₀, hl, fun d' => (heval hl d').trans he₀, hroot, hwithin⟩
  · rw [heval hl d'] at he₀
    exact Schema.collected_of_location wf steady plain hl he₀ hroot
  · rw [Schema.eval_failures plain v]
    refine List.flatMap_congr fun l hl => ?_
    rw [heval (Schema.locate_of_mem wf hl) d]
    rfl

/-- An object without a name and with a null among optional numbers: the failures are
those of the missing name and of the null, and the refinement of the object does not
come into it. -/
theorem Schema.collected_failures_of_nested :
    let s := (object [("name", leaf .string {}),
      ("sizes", array (leaf .number {}).optional {})] {}).refine fun _ => false
    let v := Value.object [("sizes", .array [.undefined, .null])]
    let collected := failures (s.safeParse .collectAll v []).1
    collected.length = 2 ∧ ∃ e₀ : Failure, e₀.within [.field "sizes", .index 1] ∈ collected ∧
      (collected.map Failure.path).count ⟨[.field "sizes", .index 1]⟩ = 1 := by
  intro s v collected
  have wf : s.WellFormed := (wellFormed_object (by
    simp [WellFormed, leaf, array, optional, attach, Shape.parts, Shape.fieldNames, Test.parts,
      Step.parts, Primitive.string, Primitive.number])).attach (by simp [Step.parts, Test.parts])
  have steady : s.Steady := by
    simp [s, Steady, refine, object, leaf, array, optional, attach, Entries.ofList, Entries.put,
      Shape.parts, Test.parts, Step.parts, Step.Steady, Primitive.string, Primitive.number]
  have plain : s.Plain := by
    simp [s, Plain, refine, object, leaf, array, optional, attach, Entries.ofList, Entries.put,
      Shape.children, Step.Plain]
  exact ⟨rfl, _, (collected_failures wf steady plain v []).2.1 [.field "sizes", .index 1]
    (leaf .number {}).optional .null [] _ rfl (List.mem_singleton.mpr rfl) rfl⟩

end SchemaEngine
