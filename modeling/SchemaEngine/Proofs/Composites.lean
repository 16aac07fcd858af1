import SchemaEngine.Proofs.Evaluation

/-!
# Outputs of objects and sequences

An object parses its fields one after the other and a sequence its items, and each of these
parses starts from the draws that the one before it left.  `Drawing.InTurn` says that all of
them have an output.  This is when the whole has one, whatever the options
(`gatherFields_eq_iff`, `gatherItems_eq_iff`): a parse that fails leaves a failure behind, and
one failure anywhere is enough for the whole to fail.

The output of an object has a member for every field whose output is present, in the order of
the fields; the output of a sequence has an item for every item.
-/

namespace SchemaEngine

/-! ## Parses in turn -/

namespace Drawing

/-- The computations, each from the draws that the one before it left, all have an output. -/
inductive InTurn : List (Drawing Outcome) → Draws → List Value → Draws → Prop
  | nil (d : Draws) : InTurn [] d [] d
  | cons {m : Drawing Outcome} {ms : List (Drawing Outcome)} {w : Value} {ws : List Value}
      {d d' d'' : Draws} :
      m d = (.ok w, d') → InTurn ms d' ws d'' → InTurn (m :: ms) d (w :: ws) d''

section InTurn
variable {m : Drawing Outcome} {ms : List (Drawing Outcome)} {ws : List Value} {d d' d'' : Draws}

theorem InTurn.length_eq (h : InTurn ms d ws d') : ws.length = ms.length := by
  induction h with
  | nil d => rfl
  | cons _ _ ih => rw [List.length_cons, List.length_cons, ih]

theorem inTurn_nil_iff : InTurn [] d ws d' ↔ ws = [] ∧ d' = d := by
  constructor
  · rintro ⟨⟩
    exact ⟨rfl, rfl⟩
  · rintro ⟨rfl, rfl⟩
    exact .nil _

theorem inTurn_cons_of_ok {w : Value} (h : m d = (.ok w, d')) :
    InTurn (m :: ms) d ws d'' ↔ ∃ rest, InTurn ms d' rest d'' ∧ ws = w :: rest := by
  constructor
  · intro hturn
    cases hturn with
    | cons hm hrest =>
      obtain ⟨hw, rfl⟩ := Prod.mk.inj (hm.symm.trans h)
      obtain rfl := Except.ok.inj hw
      exact ⟨_, hrest, rfl⟩
  · rintro ⟨rest, hrest, rfl⟩
    exact .cons h hrest

theorem not_inTurn_of_error {es : Failures} (h : m d = (.error es, d')) :
    ¬ InTurn (m :: ms) d ws d'' := by
  intro hturn
  cases hturn with
  | cons hm _ => cases (Prod.mk.inj (hm.symm.trans h)).1

/-- Where what was drawn before makes no difference, each computation is on its own. -/
theorem exists_inTurn_iff (h : ∀ m ∈ ms, ∃ r, Yields m r) (d : Draws) :
    (∃ ws d', InTurn ms d ws d') ↔ ∀ m ∈ ms, ∃ w, (m d).1 = .ok w := by
  induction ms generalizing d with
  | nil => exact iff_of_true ⟨[], d, .nil d⟩ fun m hm => absurd hm List.not_mem_nil
  | cons m ms ih =>
    have hrest := ih fun n hn => h n (List.mem_cons_of_mem _ hn)
    rw [List.forall_mem_cons]
    cases hm : m d with
    | mk r d₁ =>
      -- the others have the same outputs from `d` as from `d₁`
      have hsame : (∀ n ∈ ms, ∃ w, (n d₁).1 = .ok w) ↔ ∀ n ∈ ms, ∃ w, (n d).1 = .ok w := by
        refine forall₂_congr fun n hn => ?_
        obtain ⟨x, hx⟩ := h n (List.mem_cons_of_mem _ hn)
        rw [hx d₁, hx d]
      cases r with
      | error es =>
        refine iff_of_false ?_ fun hall => by obtain ⟨w, hw⟩ := hall.1; cases hw
        rintro ⟨ws, d', hturn⟩
        exact not_inTurn_of_error hm hturn
      | ok w =>
        rw [← hsame, ← hrest d₁]
        constructor
        · rintro ⟨ws, d', hturn⟩
          obtain ⟨rest, hturn, -⟩ := (inTurn_cons_of_ok hm).mp hturn
          exact ⟨⟨w, rfl⟩, rest, d', hturn⟩
        · rintro ⟨-, rest, d', hturn⟩
          exact ⟨w :: rest, d', .cons hm hturn⟩

/-- A whole that has an output when its parts have one in turn. -/
theorem accepts_iff {whole : Drawing Outcome} {assemble : List Value → Value}
    (hwhole : ∀ z d', whole d = (.ok z, d') ↔ ∃ ws, InTurn ms d ws d' ∧ z = assemble ws)
    (h : ∀ m ∈ ms, ∃ r, Yields m r) :
    (∃ z, (whole d).1 = .ok z) ↔ ∀ m ∈ ms, ∃ w, (m d).1 = .ok w := by
  rw [← exists_inTurn_iff h d]
  constructor
  · rintro ⟨z, hz⟩
    obtain ⟨ws, hturn, -⟩ := (hwhole z _).mp (Prod.ext hz rfl)
    exact ⟨ws, _, hturn⟩
  · rintro ⟨ws, d', hturn⟩
    exact ⟨_, congrArg Prod.fst ((hwhole _ d').mpr ⟨ws, hturn, rfl⟩)⟩

end InTurn

end Drawing

open Drawing (InTurn)

/-! ## Gathering -/

section Parts
variable {ι α : Type} {segment : ι → Segment} {place : ι → Value → List α → List α}
  {o : Options} {d d' d₁ : Draws}

/-- Parses parts, each known by a name or an index, one after the other.  `place` puts the
output of a part before what the later parts gave; a failure is said of its part. -/
def gatherParts (segment : ι → Segment) (place : ι → Value → List α → List α) (o : Options) :
    List (ι × Drawing Outcome) → Drawing (Gathered α)
  | [] => pure .none
  | (i, parse) :: rest => do
    match ← parse with
    | .ok w =>
      let g ← gatherParts segment place o rest
      return { g with outputs := place i w g.outputs }
    | .error es =>
      if o.abortEarly then return Gathered.none.reject (es.under (segment i))
      else return (← gatherParts segment place o rest).reject (es.under (segment i))

theorem gatherItems_eq_gatherParts (parse : Value → Drawing Outcome) (o : Options) (i : Nat)
    (items : List Value) :
    gatherItems parse o i items =
      gatherParts .index (fun _ w ws => w :: ws) o
        ((items.zipIdx i).map fun p => (p.2, parse p.1)) := by
  induction items generalizing i with
  | nil => rfl
  | cons v rest ih =>
    rw [List.zipIdx_cons, List.map_cons, gatherItems, gatherParts, ih (i + 1)]
    rfl

/-- A member is put before the others, unless it is absent. -/
def placeMember (name : String) (w : Value) (ws : List (String × Value)) :
    List (String × Value) :=
  if w.isUndefined then ws else (name, w) :: ws

theorem gatherFields_eq_gatherParts (fields : List (String × Schema)) (members : Entries Value)
    (o : Options) :
    gatherFields fields members o =
      gatherParts .field placeMember o
        (fields.map fun p => (p.1, p.2.run ((members.find? p.1).getD .undefined) o)) := by
  induction fields with
  | nil => rfl
  | cons field rest ih =>
    obtain ⟨name, s⟩ := field
    rw [List.map_cons, gatherFields, gatherParts, ih]
    have hmember : ∀ w (g : Gathered (String × Value)),
        g.acceptMember name w = { g with outputs := placeMember name w g.outputs } := by
      intro w g
      unfold Gathered.acceptMember placeMember
      split <;> rfl
    refine bind_congr fun r => ?_
    cases r with
    | ok w => exact bind_congr fun g => congrArg pure (hmember w g)
    | error es => rfl

variable {i : ι} {parse : Drawing Outcome} {rest : List (ι × Drawing Outcome)}

theorem gatherParts_cons_of_ok {w : Value} (h : parse d = (.ok w, d₁)) :
    gatherParts segment place o ((i, parse) :: rest) d =
      ({ (gatherParts segment place o rest d₁).1 with
          outputs := place i w (gatherParts segment place o rest d₁).1.outputs },
        (gatherParts segment place o rest d₁).2) := by
  rw [gatherParts, Drawing.bind_apply, h]
  rfl

theorem gatherParts_cons_of_error {es : Failures} (h : parse d = (.error es, d₁)) :
    gatherParts segment place o ((i, parse) :: rest) d =
      if o.abortEarly then (Gathered.none.reject (es.under (segment i)), d₁)
      else ((gatherParts segment place o rest d₁).1.reject (es.under (segment i)),
        (gatherParts segment place o rest d₁).2) := by
  rw [gatherParts, Drawing.bind_apply, h]
  simp only
  split <;> rfl

/-- The two rules for the items of a sequence. -/
theorem gatherItems_cons_of_ok {parse : Value → Drawing Outcome} {v w : Value}
    (h : parse v d = (.ok w, d₁)) (n : Nat) (items : List Value) :
    gatherItems parse o n (v :: items) d =
      ((gatherItems parse o (n + 1) items d₁).1.accept w,
        (gatherItems parse o (n + 1) items d₁).2) := by
  rw [gatherItems_eq_gatherParts, gatherItems_eq_gatherParts, List.zipIdx_cons, List.map_cons]
  exact gatherParts_cons_of_ok h

theorem gatherItems_cons_of_error {parse : Value → Drawing Outcome} {v : Value} {es : Failures}
    (h : parse v d = (.error es, d₁)) (n : Nat) (items : List Value) :
    gatherItems parse o n (v :: items) d =
      if o.abortEarly then (Gathered.none.reject (es.under (.index n)), d₁)
      else ((gatherItems parse o (n + 1) items d₁).1.reject (es.under (.index n)),
        (gatherItems parse o (n + 1) items d₁).2) := by
  rw [gatherItems_eq_gatherParts, gatherItems_eq_gatherParts, List.zipIdx_cons, List.map_cons]
  exact gatherParts_cons_of_error h

theorem Gathered.failures_reject (g : Gathered α) (es : Failures) :
    (g.reject es).failures ≠ [] := by
  simp [Gathered.reject, Failures.toList]

/-- A part that fails leaves a failure behind, whether or not the parse ends with it. -/
theorem failures_gatherParts_of_error {es : Failures} (h : parse d = (.error es, d₁)) :
    (gatherParts segment place o ((i, parse) :: rest) d).1.failures ≠ [] := by
  rw [gatherParts_cons_of_error h]
  split
  · exact Gathered.failures_reject _ _
  · exact Gathered.failures_reject _ _

/-- What the outputs of all parts are put together to. -/
def placeAll (place : ι → Value → List α → List α) (is : List ι) (ws : List Value) : List α :=
  (is.zip ws).foldr (fun p xs => place p.1 p.2 xs) []

/-- **No failure was gathered when all parts have an output in turn**, under any options. -/
theorem gatherParts_eq_iff {parts : List (ι × Drawing Outcome)} {xs : List α} :
    gatherParts segment place o parts d = (⟨xs, []⟩, d') ↔
      ∃ ws, InTurn (parts.map Prod.snd) d ws d' ∧ xs = placeAll place (parts.map Prod.fst) ws := by
  induction parts generalizing d xs with
  | nil =>
    constructor
    · rintro ⟨⟩
      exact ⟨[], .nil _, rfl⟩
    · rintro ⟨ws, hturn, rfl⟩
      obtain ⟨rfl, rfl⟩ := Drawing.inTurn_nil_iff.mp hturn
      rfl
  | cons part rest ih =>
    obtain ⟨i, parse⟩ := part
    cases hparse : parse d with
    | mk r d₁ =>
      cases r with
      | error es =>
        have hfailures : (gatherParts segment place o ((i, parse) :: rest) d).1.failures ≠ [] :=
          failures_gatherParts_of_error hparse
        refine iff_of_false (fun h => hfailures (by rw [h])) ?_
        rintro ⟨ws, hturn, -⟩
        exact Drawing.not_inTurn_of_error hparse hturn
      | ok w =>
        rw [gatherParts_cons_of_ok hparse]
        constructor
        · intro h
          cases hg : gatherParts segment place o rest d₁ with
          | mk g d₂ =>
            rw [hg] at h
            obtain ⟨hxs, rfl⟩ := Prod.mk.inj h
            obtain ⟨rfl, hfailures⟩ := Gathered.mk.inj hxs
            have hrest : gatherParts segment place o rest d₁ = (⟨g.outputs, []⟩, d₂) := by
              rw [hg, ← hfailures]
            obtain ⟨ws, hturn, hws⟩ := ih.mp hrest
            exact ⟨w :: ws, .cons hparse hturn, by rw [hws]; rfl⟩
        · rintro ⟨ws, hturn, rfl⟩
          obtain ⟨tail, htail, rfl⟩ := (Drawing.inTurn_cons_of_ok hparse).mp hturn
          rw [ih.mpr ⟨tail, htail, rfl⟩]
          rfl

theorem Gathered.outcome_eq_ok_iff {g : Gathered α} {assemble : List α → Value} {z : Value} :
    g.outcome assemble = .ok z ↔ g.failures = [] ∧ assemble g.outputs = z := by
  obtain ⟨outputs, failures⟩ := g
  cases failures <;> simp [Gathered.outcome, Failures.ofList?]

/-- The whole has an output when all parts have one in turn. -/
theorem outcome_gatherParts_eq_ok_iff {parts : List (ι × Drawing Outcome)}
    {assemble : List α → Value} {z : Value} :
    (do return (← gatherParts segment place o parts).outcome assemble) d = (.ok z, d') ↔
      ∃ ws, InTurn (parts.map Prod.snd) d ws d' ∧
        z = assemble (placeAll place (parts.map Prod.fst) ws) := by
  cases hg : gatherParts segment place o parts d with
  | mk g d₁ =>
    rw [Drawing.bind_apply, hg]
    constructor
    · intro h
      obtain ⟨houtcome, rfl⟩ := Prod.mk.inj h
      obtain ⟨hfailures, rfl⟩ := Gathered.outcome_eq_ok_iff.mp houtcome
      have hgather : gatherParts segment place o parts d = (⟨g.outputs, []⟩, d₁) := by
        rw [hg, ← hfailures]
      obtain ⟨ws, hturn, hws⟩ := gatherParts_eq_iff.mp hgather
      exact ⟨ws, hturn, by rw [hws]⟩
    · rintro ⟨ws, hturn, rfl⟩
      have hgather : gatherParts segment place o parts d = (⟨placeAll place _ ws, []⟩, d') :=
        gatherParts_eq_iff.mpr ⟨ws, hturn, rfl⟩
      obtain ⟨rfl, rfl⟩ := Prod.mk.inj (hg.symm.trans hgather)
      rfl

theorem placeAll_items (is : List ι) (ws : List Value) (h : ws.length = is.length) :
    placeAll (fun _ w xs => w :: xs) is ws = ws := by
  induction is generalizing ws with
  | nil => exact (List.length_eq_zero_iff.mp h).symm
  | cons i is ih =>
    cases ws with
    | nil => cases h
    | cons w ws => exact congrArg (w :: ·) (ih ws (Nat.succ.inj h))

theorem placeAll_members (names : List String) (ws : List Value) :
    placeAll placeMember names ws = presentMembers (names.zip ws) := by
  unfold placeAll
  induction names.zip ws with
  | nil => rfl
  | cons p rest ih => rw [List.foldr_cons, ih, presentMembers_cons, placeMember]

end Parts

/-! ## Objects and sequences -/

namespace Schema
variable {fields : List (String × Schema)} {element : Schema} {label : Label} {o : Options}
  {d d' : Draws} {z : Value}

theorem run_unstepped (shape : Shape) (label : Label) (v : Value) (o : Options) :
    (node shape label []).run v o = shape.base label v o := by
  simp only [run, layerInputs, outward, pure_bind, bind_pure]

theorem object_eq_ok_iff {members : Entries Value} :
    (object fields label).run (.object members) o d = (.ok z, d') ↔
      ∃ ws, InTurn ((Entries.ofList fields).map fun p =>
          p.2.run ((Value.object members).member p.1) o) d ws d' ∧
        z = .object (presentMembers ((Entries.ofList fields).names.zip ws)) := by
  rw [object, run_unstepped, Shape.base, gatherFields_eq_gatherParts,
    outcome_gatherParts_eq_ok_iff, List.map_map, List.map_map]
  simp only [placeAll_members]
  rfl

theorem array_eq_ok_iff {items : List Value} :
    (array element label).run (.array items) o d = (.ok z, d') ↔
      ∃ ws, InTurn (items.map fun x => element.run x o) d ws d' ∧ z = .array ws := by
  have hparses : (items.zipIdx.map fun p => (p.2, element.run p.1 o)).map Prod.snd =
      items.map fun x => element.run x o := by
    have hitems : items.zipIdx.map Prod.fst = items := List.zipIdx_map_fst 0 items
    rw [← congrArg (List.map fun x => element.run x o) hitems, List.map_map, List.map_map]
    rfl
  rw [array, run_unstepped, Shape.base, gatherItems_eq_gatherParts,
    outcome_gatherParts_eq_ok_iff, hparses]
  refine exists_congr fun ws => and_congr_right fun hturn => ?_
  rw [placeAll_items _ ws (by simpa using hturn.length_eq)]

/-- An object of steady fields accepts when each field does, whatever was drawn before. -/
theorem object_accepts_iff {members : Entries Value}
    (steady : ∀ p ∈ Entries.ofList fields, p.2.Steady) :
    (∃ z, ((object fields label).run (.object members) o d).1 = .ok z) ↔
      ∀ p ∈ Entries.ofList fields,
        ∃ w, (p.2.run ((Value.object members).member p.1) o d).1 = .ok w := by
  have hyields : ∀ m ∈ (Entries.ofList fields).map fun p =>
      p.2.run ((Value.object members).member p.1) o, ∃ r, Drawing.Yields m r := by
    intro m hm
    obtain ⟨p, hp, rfl⟩ := List.mem_map.mp hm
    exact ⟨_, run_yields (steady p hp) _ o⟩
  rw [← List.forall_mem_map (P := fun m : Drawing Outcome => ∃ w, (m d).1 = .ok w)]
  exact Drawing.accepts_iff (fun z d' => object_eq_ok_iff) hyields

/-- A sequence of steady elements accepts when each item does, whatever was drawn before. -/
theorem array_accepts_iff {items : List Value} (steady : element.Steady) :
    (∃ z, ((array element label).run (.array items) o d).1 = .ok z) ↔
      ∀ x ∈ items, ∃ w, (element.run x o d).1 = .ok w := by
  have hyields : ∀ m ∈ items.map fun x => element.run x o, ∃ r, Drawing.Yields m r := by
    intro m hm
    obtain ⟨x, -, rfl⟩ := List.mem_map.mp hm
    exact ⟨_, run_yields steady x o⟩
  rw [← List.forall_mem_map (P := fun m : Drawing Outcome => ∃ w, (m d).1 = .ok w)]
  exact Drawing.accepts_iff (fun z d' => array_eq_ok_iff) hyields

theorem object_of_other {v : Value} (other : v.typeName ≠ "object")
    (fields : List (String × Schema)) (label : Label) (o : Options) (d : Draws) :
    (object fields label).run v o d =
      (.error (.single (.typeMismatch (.object []) label v)), d) := by
  rw [object, run_unstepped]
  cases v with
  | object members => exact absurd rfl other
  | _ => rfl

theorem array_of_other {v : Value} (other : v.typeName ≠ "array") (element : Schema)
    (label : Label) (o : Options) (d : Draws) :
    (array element label).run v o d =
      (.error (.single (.typeMismatch (.array element) label v)), d) := by
  rw [array, run_unstepped]
  cases v with
  | array items => exact absurd rfl other
  | _ => rfl

/-- The failure of a value that is no sequence says of the element only its signature. -/
theorem typeMismatch_array {element other : Schema} (h : other.signature = element.signature)
    (label : Label) (v : Value) :
    Failure.typeMismatch (.array other) label v = .typeMismatch (.array element) label v := by
  simp only [Failure.typeMismatch, Shape.signature, h]
  rfl

/-- **What objects and sequences return.**  An object declares every name once, where it
first came, with its last schema.  It has an output when the fields have one in turn, and then
the output has a member for every field whose output is present, in the order of the fields.
A sequence has an output when its items have one in turn, and then these are its items.
Where nothing hangs on draws, this is to say that each part accepts on its own.  Every other
value is rejected as a whole, with one failure, and no part is parsed: the result does not
hang on the parts, and nothing is drawn. -/
theorem composite_outputs (fields : List (String × Schema)) (element : Schema) (label : Label)
    (o : Options) :
    let declared := Entries.ofList fields
    (declared.names = (Entries.names fields).eraseDups ∧ declared.names.Nodup ∧
      ∀ k, declared.find? k = Entries.find? k fields.reverse) ∧
    (∀ members d,
      let v := Value.object members
      let parse := (object fields label).safeParse o v d
      (∀ z d', parse = (.ok z, d') ↔ ∃ ws,
        InTurn (declared.map fun p => p.2.safeParse o (v.member p.1)) d ws d' ∧
        z = .object (presentMembers (declared.names.zip ws))) ∧
      ((∀ p ∈ declared, p.2.Steady) →
        ((∃ z, parse.1 = .ok z) ↔
          ∀ p ∈ declared, ∃ w, (p.2.safeParse o (v.member p.1) d).1 = .ok w))) ∧
    (∀ items d,
      let parse := (array element label).safeParse o (.array items) d
      (∀ z d', parse = (.ok z, d') ↔ ∃ ws,
        InTurn (items.map fun x => element.safeParse o x) d ws d' ∧ ws.length = items.length ∧
        z = .array ws) ∧
      (element.Steady →
        ((∃ z, parse.1 = .ok z) ↔ ∀ x ∈ items, ∃ w, (element.safeParse o x d).1 = .ok w))) ∧
    (∀ v d, v.typeName ≠ "object" → ∃ e : Failure, e.code = "invalid_type" ∧ e.path = .root ∧
      ∀ others, (object others label).safeParse o v d = (.error (.single e), d)) ∧
    ∀ v d, v.typeName ≠ "array" → ∃ e : Failure, e.code = "invalid_type" ∧ e.path = .root ∧
      ∀ other : Schema, other.signature = element.signature →
        (array other label).safeParse o v d = (.error (.single e), d) := by
  intro declared
  refine ⟨⟨Entries.names_ofList fields, Entries.distinct_ofList fields,
      fun k => Entries.find?_ofList k fields⟩,
    fun members d => ⟨fun z d' => object_eq_ok_iff, object_accepts_iff⟩,
    fun items d => ⟨fun z d' => ?_, array_accepts_iff⟩, fun v d hv => ?_, fun v d hv => ?_⟩
  · refine array_eq_ok_iff.trans (exists_congr fun ws => and_congr_right fun hturn => ?_)
    have hlength : ws.length = items.length := by simpa using hturn.length_eq
    exact (and_iff_right hlength).symm
  · exact ⟨.typeMismatch (.object []) label v, rfl, rfl,
      fun others => object_of_other hv others label o d⟩
  · refine ⟨.typeMismatch (.array element) label v, rfl, rfl, fun other hother => ?_⟩
    rw [← typeMismatch_array hother label v]
    exact array_of_other hv other label o d

/-- A name is declared twice, with the second schema in the first place; an absent field is
left out, and so is a member that is not declared. -/
theorem composite_outputs_of_repeated :
    let text := leaf .string {}
    let fields := [("a", leaf .number {}), ("b", optional text), ("a", text)]
    let members := [("c", Value.null), ("a", .text "x")]
    let v := Value.object members
    (object fields {}).safeParse {} v [] = (.ok (.object [("a", .text "x")]), []) ∧
    (∀ p ∈ Entries.ofList fields, p.2.Steady) ∧ text.Steady ∧
    (∃ z, ((object fields {}).safeParse .collectAll v []).1 = .ok z) ∧
    (∃ z, ((array text {}).safeParse {} (.array [.text "x"]) []).1 = .ok z) ∧
    Value.typeName .null ≠ "object" ∧ Value.typeName .null ≠ "array" ∧
    (∃ e : Failure, (object fields {}).safeParse {} .null [] = (.error (.single e), [])) ∧
    ∃ e : Failure, (array text {}).safeParse {} .null [] = (.error (.single e), []) := by
  intro text fields members v
  have htext : text.Steady := by
    simp [text, Steady, leaf, Shape.parts, Test.parts, Primitive.string]
  have hsteady : ∀ p ∈ Entries.ofList fields, p.2.Steady := by
    simp [fields, text, Entries.ofList, Entries.put, Steady, optional, leaf, attach, Shape.parts,
      Test.parts, Step.parts, Step.Steady, Primitive.string]
  obtain ⟨-, hobject, harray, hother, hother'⟩ := composite_outputs fields text {} {}
  obtain ⟨-, hobject', -⟩ := composite_outputs fields text {} .collectAll
  have hnull : Value.typeName .null ≠ "object" := by decide
  have hnull' : Value.typeName .null ≠ "array" := by decide
  obtain ⟨e, -, -, he⟩ := hother .null [] hnull
  obtain ⟨e', -, -, he'⟩ := hother' .null [] hnull'
  refine ⟨((hobject members []).1 _ _).mpr ⟨[.text "x", .undefined], ?_, rfl⟩, hsteady, htext,
    ((hobject' members []).2 hsteady).mpr ?_, ((harray [.text "x"] []).2 htext).mpr ?_, hnull,
    hnull', ⟨e, he fields⟩, e', he' text rfl⟩
  · exact .cons rfl (.cons rfl (.nil []))
  · intro p hp
    have hfields : Entries.ofList fields = [("a", text), ("b", optional text)] := rfl
    rw [hfields] at hp
    rcases List.mem_cons.mp hp with rfl | hp
    · exact ⟨_, rfl⟩
    · obtain rfl := List.mem_singleton.mp hp
      exact ⟨_, rfl⟩
  · intro x hx
    obtain rfl := List.mem_singleton.mp hx
    exact ⟨_, rfl⟩

end Schema

end SchemaEngine
