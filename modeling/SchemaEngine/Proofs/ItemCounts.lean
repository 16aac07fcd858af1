import SchemaEngine.Check.Items
import SchemaEngine.Proofs.Composites
import SchemaEngine.Proofs.Keys
import SchemaEngine.Proofs.Outputs
import SchemaEngine.Proofs.Refinements

/-!
# Counts in the messages of the bounds

A bound on the number of items counts the items of the output that reaches it, but its message
counts those of the input of its layer (`Schema.item_bounds_report`).  The two counts agree
where nothing below the bound converts values and the input is present: a schema that only
checks returns as many items as it received (`Schema.itemCount_of_checking`).  Otherwise they
can differ, and the message can tell of a count that the bound allows.
-/

namespace SchemaEngine

/-! ## Bounds -/

/-- A bound on the number of items. -/
inductive ItemBound
  | atLeast (n : Nat)
  | atMost (n : Nat)

namespace ItemBound

/-- Whether so many items are within the bound. -/
def allows : ItemBound → Nat → Bool
  | .atLeast n, k => decide (n ≤ k)
  | .atMost n, k => decide (k ≤ n)

/-- The check for the bound. -/
def check : ItemBound → Step
  | .atLeast n => Check.minItems n
  | .atMost n => Check.maxItems n

/-- How the messages of the bound begin. -/
def opening : ItemBound → String
  | .atLeast n => "The array must have at least " ++ toString n ++ " items, got "
  | .atMost n => "The array must have at most " ++ toString n ++ " items, got "

/-- The message of the bound that tells of `k` items. -/
def complaint (bound : ItemBound) (k : Nat) : String := bound.opening ++ toString k ++ "."

theorem check_eq (bound : ItemBound) :
    bound.check = Check.onInput (Condition.items fun xs => bound.allows xs.length)
      (.computed fun v => bound.complaint (Check.itemCount v)) := by
  cases bound <;> rfl

/-- The count can be read off the message. -/
theorem complaint_inj {bound : ItemBound} {j k : Nat} :
    bound.complaint j = bound.complaint k ↔ j = k := by
  refine ⟨fun h => ?_, congrArg _⟩
  have hdigits : toString j = toString k :=
    (String.append_right_inj _).mp ((String.append_left_inj _).mp h)
  exact Segment.render_index_inj hdigits

end ItemBound

/-! ## Schemas that keep the number of items -/

/-- An output has `n` items. -/
def Outcome.Counts (n : Nat) : Outcome → Prop
  | .ok w => Check.itemCount w = n
  | .error _ => True

theorem Outcome.Counts.rescue {r : Outcome} {n : Nat} {rescued : Bool} {passed : Value}
    (h : r.Counts n) (hpassed : rescued = true → Check.itemCount passed = n) :
    (r.rescue rescued passed).Counts n := by
  cases r with
  | ok w => exact h
  | error es =>
    cases rescued with
    | true => exact hpassed rfl
    | false => trivial

section Counts
variable {o : Options} {v : Value}

theorem Schema.array_counts (element : Schema) (label : Label) (items : List Value) :
    Drawing.Ensures ((array element label).run (.array items) o)
      (Outcome.Counts items.length) := by
  intro d
  rcases hr : (array element label).run (.array items) o d with ⟨r, d'⟩
  cases r with
  | error es => trivial
  | ok w =>
    obtain ⟨ws, hturn, rfl⟩ := array_eq_ok_iff.mp hr
    exact hturn.length_eq.trans (List.length_map _)

/-- The items of a sequence are parsed one by one, and other values have none. -/
theorem Shape.base_counts {shape : Shape} (checking : shape.Checking) (label : Label) (v : Value)
    (o : Options) :
    Drawing.Ensures (shape.base label v o) (Outcome.Counts (Check.itemCount v)) := by
  have hpass : Drawing.Ensures (pure (.ok v)) (Outcome.Counts (Check.itemCount v)) :=
    Drawing.ensures_pure rfl
  have hfail : ∀ e, Drawing.Ensures (pure (.error e)) (Outcome.Counts (Check.itemCount v)) :=
    fun _ => Drawing.ensures_pure trivial
  cases shape with
  | leaf kind test =>
    simp only [Shape.base]
    refine Drawing.ensures_bind _ fun b => ?_
    cases b with
    | true => exact hpass
    | false => exact hfail _
  | object fields =>
    cases v with
    | object members =>
      refine Drawing.ensures_bind _ fun g => Drawing.ensures_pure ?_
      unfold Gathered.outcome
      split
      · trivial
      · rfl
    | _ => exact hfail _
  | array element =>
    cases v with
    | array items =>
      rw [← Schema.run_unstepped]
      exact Schema.array_counts element label items
    | _ => exact hfail _
  | enumeration values =>
    cases v with
    | text s =>
      simp only [Shape.base]
      split
      · exact hpass
      · exact hfail _
    | _ => exact hfail _
  | literal value =>
    simp only [Shape.base]
    split
    · exact hpass
    · exact hfail _
  | union candidates => exact checking.elim

/-- A default does not act on a value that is present, and a rescue returns its input. -/
theorem Step.wrap_counts {step : Step} {below : Value → Drawing Outcome}
    (checking : step.Checking) (present : v.isUndefined = false)
    (h : Drawing.Ensures (below v) (Outcome.Counts (Check.itemCount v))) :
    Drawing.Ensures (step.wrap o below v) (Outcome.Counts (Check.itemCount v)) := by
  have hrescue : ∀ rescued passed, (rescued = true → v = passed) →
      Drawing.Ensures (do return (← below v).rescue rescued passed)
        (Outcome.Counts (Check.itemCount v)) :=
    fun rescued passed hpassed => h.bind fun r hr =>
      Drawing.ensures_pure (hr.rescue fun hrescued => congrArg _ (hpassed hrescued).symm)
  cases step with
  | preprocess f => exact checking.elim
  | transform f => exact checking.elim
  | pipe next => exact checking.elim
  | default fallback => simpa [Step.wrap, present] using h
  | optional => exact hrescue _ _ Value.eq_undefined
  | nullable => exact hrescue _ _ Value.eq_null
  | nullish => exact hrescue _ _ fun _ => rfl
  | refine test message subject =>
    simp only [Step.wrap]
    refine h.bind fun r hr => ?_
    cases r with
    | ok w =>
      refine Drawing.ensures_bind _ fun b => ?_
      cases b with
      | true => exact Drawing.ensures_pure hr
      | false => exact Drawing.ensures_pure trivial
    | error es => exact Drawing.ensures_pure trivial

theorem layered_counts {base : Value → Drawing Outcome} {steps : List Step}
    (checking : ∀ step ∈ steps, step.Checking) (present : v.isUndefined = false)
    (h : Drawing.Ensures (base v) (Outcome.Counts (Check.itemCount v))) :
    Drawing.Ensures (layered o base steps v) (Outcome.Counts (Check.itemCount v)) := by
  induction steps with
  | nil => exact h
  | cons step below ih =>
    exact Step.wrap_counts (checking step (List.mem_cons_self ..)) present
      (ih fun s hs => checking s (List.mem_cons_of_mem _ hs))

end Counts

namespace Schema

/-- A schema that only checks returns as many items as it received. -/
theorem itemCount_of_checking {s : Schema} {v w : Value} {o : Options} {d d' : Draws}
    (shape : s.shape.Checking) (steps : ∀ step ∈ s.steps, step.Checking)
    (present : v.isUndefined = false) (h : s.safeParse o v d = (.ok w, d')) :
    Check.itemCount w = Check.itemCount v := by
  have hcounts : Drawing.Ensures (s.layered v o) (Outcome.Counts (Check.itemCount v)) :=
    layered_counts (fun step hstep => steps step (List.mem_reverse.mp hstep)) present
      (Shape.base_counts shape s.label v o)
  have hw : ((s.layered v o) d).1 = .ok w := by rw [← run_eq_layered, ← safeParse, h]
  have := hcounts d
  rwa [hw] at this

/-- **A bound on the number of items is checked on the output and reported of the input.**  A
sequence that reaches the bound is returned as it is when its length is within the bound.
Otherwise it is rejected with one failure, and the count in its message is that of the input:
the length that was checked when the input has as many items, and another number when it has
not.  It has as many where the schema only checks and the input is present. -/
theorem item_bounds_report (bound : ItemBound) {s : Schema} {v : Value} {items : List Value}
    {o : Options} {d d' : Draws} (reaches : s.safeParse o v d = (.ok (.array items), d')) :
    let parse := (s.attach bound.check).safeParse o v d
    let told := Check.itemCount v
    (bound.allows items.length = true → parse = (.ok (.array items), d')) ∧
    (bound.allows items.length = false → ∃ e : Failure, parse = (.error (.single e), d') ∧
      e.code = "refinement" ∧ e.path = .root ∧ e.got = some (Value.array items).display ∧
      e.message = bound.complaint told ∧
      (e.message = bound.complaint items.length ↔ told = items.length)) ∧
    (s.shape.Checking → (∀ step ∈ s.steps, step.Checking) → v.isUndefined = false →
      told = items.length) := by
  intro parse told
  have hparse : parse = (if bound.allows items.length then .ok (.array items) else
      .error (.single (.refinement (some (.computed fun x =>
        bound.complaint (Check.itemCount x))) v (.array items))), d') := by
    simp only [parse, safeParse, bound.check_eq]
    exact run_refine reaches _ _ _
  refine ⟨fun h => ?_, fun h => ?_, fun shape steps present => ?_⟩
  · rw [hparse, if_pos h]
  · rw [h] at hparse
    exact ⟨_, hparse, rfl, rfl, rfl, rfl, ItemBound.complaint_inj⟩
  · exact (itemCount_of_checking shape steps present reaches).symm

/-- Three items make a sequence of one, whose message tells of three.  A plain sequence is told
of its own length. -/
theorem item_bounds_report_of_wrapped :
    let plain := array (leaf .any {}) {}
    let wrapped := transform (fun v => .array [v]) plain
    let three := [Value.null, .null, .null]
    let bound := ItemBound.atLeast 2
    plain.safeParse {} (.array three) [] = (.ok (.array three), []) ∧
    plain.shape.Checking ∧ (∀ step ∈ plain.steps, step.Checking) ∧
    Check.itemCount (.array three) = three.length ∧
    wrapped.safeParse {} (.array three) [] = (.ok (.array [.array three]), []) ∧
    ∃ e : Failure, (wrapped.attach bound.check).safeParse {} (.array three) [] =
      (.error (.single e), []) ∧ e.message = bound.complaint 3 ∧ e.message ≠ bound.complaint 1 := by
  intro plain wrapped three bound
  have reachesPlain : plain.safeParse {} (.array three) [] = (.ok (.array three), []) := rfl
  have reachesWrapped : wrapped.safeParse {} (.array three) [] =
    (.ok (.array [.array three]), []) := rfl
  have steps : ∀ step ∈ plain.steps, step.Checking := fun step h => by cases h
  have hcount := (item_bounds_report bound reachesPlain).2.2 trivial steps rfl
  obtain ⟨e, hparse, -, -, -, htold, hright⟩ :=
    (item_bounds_report bound reachesWrapped).2.1 rfl
  exact ⟨reachesPlain, trivial, steps, hcount, reachesWrapped, e, hparse, htold,
    fun h => absurd (hright.mp h) (by decide)⟩

/-- A default of two items, where one is allowed: the message tells of none, which is
allowed. -/
theorem default_counted_as_none :
    let schema := default (.array [.null, .null]) (array (leaf .any {}) {})
    schema.safeParse {} .undefined [] = (.ok (.array [.null, .null]), []) ∧
    (∃ e : Failure, (schema.attach (Check.maxItems 1)).safeParse {} .undefined [] =
      (.error (.single e), []) ∧ e.message = "The array must have at most 1 items, got 0.") ∧
    (ItemBound.atMost 1).allows 0 = true :=
  ⟨rfl, ⟨_, rfl, by decide +kernel⟩, rfl⟩

end Schema
end SchemaEngine
