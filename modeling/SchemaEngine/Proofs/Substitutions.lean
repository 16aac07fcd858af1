import Mathlib.Data.List.TakeWhile
import SchemaEngine.Proofs.Composites
import SchemaEngine.Proofs.StepLaws

/-!
# Values drawn from a source

The items of a sequence are numbers, and for an absent one stands the next value of a source.
A parse then takes one turn of the source for every absent item that it comes to
(`substitutions`), in the order of the items, and none for the others: also when it fails,
since a failure is found out item by item and nothing is parsed twice.  What the items before
took is the only thing that is left behind, so parses one after the other take consecutive
turns (`turns`).
-/

namespace SchemaEngine

/-- Whether a value is a number other than NaN. -/
def properNumber : Condition := Condition.number fun x => !x.isNaN

/-- Whether a value is absent, or a number other than NaN. -/
def absentOrNumber (v : Value) : Bool := v.isUndefined || properNumber v

/-- The values `xs` stand for the absent items of a sequence, from left to right, and the other
items stay as they are. -/
inductive Filled : List Value → List Value → List Value → Prop
  | nil : Filled [] [] []
  | absent {items xs zs : List Value} (x : Value) :
      Filled items xs zs → Filled (.undefined :: items) (x :: xs) (x :: zs)
  | present {items xs zs : List Value} {v : Value} :
      v.isUndefined = false → Filled items xs zs → Filled (v :: items) xs (v :: zs)

/-- The items that a parse comes to without a failure: all of them, when it goes on after a
failure, and otherwise those before the first that is rejected. -/
def passedItems (o : Options) (items : List Value) : List Value :=
  if o.abortEarly then items.takeWhile absentOrNumber else items

/-- How many values a parse substitutes. -/
def substitutions (o : Options) (v : Value) : Nat :=
  match v with
  | .array items => (passedItems o items).countP Value.isUndefined
  | _ => 0

/-- The turns of the source that parses take one after the other, from turn `c` on, for each
parse a list. -/
def turns : Nat → List (Options × Value) → List (List Nat)
  | _, [] => []
  | c, (o, v) :: rest =>
    List.range' c (substitutions o v) :: turns (c + substitutions o v) rest

namespace Schema

/-- Numbers, and for an absent one the next value of a source. -/
def numberFrom (source : Nat) (g : Nat → Value) : Schema := defaultFrom source g (leaf .number {})

/-- Parses with one schema, one after the other. -/
def parses (s : Schema) (requests : List (Options × Value)) : Drawing (List Outcome) :=
  requests.mapM fun r => s.safeParse r.1 r.2

theorem parses_cons (s : Schema) (o : Options) (v : Value) (rest : List (Options × Value))
    (d : Draws) :
    s.parses ((o, v) :: rest) d =
      ((s.safeParse o v d).1 :: (s.parses rest (s.safeParse o v d).2).1,
        (s.parses rest (s.safeParse o v d).2).2) := by
  rw [parses, List.mapM_cons]
  rfl

section Numbers
variable {source : Nat} {g : Nat → Value} {v : Value} {o : Options} {d : Draws}

/-! ## One item -/

theorem run_number (v : Value) (o : Options) (d : Draws) :
    (leaf .number {}).run v o d =
      (if properNumber v then .ok v
        else .error (.single (.typeMismatch (.leaf "number" Primitive.number.test) {} v)), d) := by
  rw [leaf, run_unstepped, Shape.base]
  show (if properNumber v then (pure (.ok v) : Drawing Outcome) else pure _) d = _
  split <;> rfl

theorem run_numberFrom_undefined (proper : ∀ j, properNumber (g j) = true) (o : Options)
    (d : Draws) :
    (numberFrom source g).run .undefined o d = (.ok (g (d.count source)), d.advance source) := by
  have hrun : (numberFrom source g).run .undefined o d =
      (leaf .number {}).run (g (d.count source)) o (d.advance source) := by
    rw [numberFrom, defaultFrom, run_attach]
    rfl
  rw [hrun, run_number, if_pos (proper _)]

theorem run_numberFrom_present (present : v.isUndefined = false) (o : Options) (d : Draws) :
    (numberFrom source g).run v o d = (leaf .number {}).run v o d := by
  rw [numberFrom, defaultFrom, run_attach, Step.wrap, present]
  rfl

/-- An item is rejected when it is neither absent nor a number. -/
theorem numberFrom_accepts_iff (proper : ∀ j, properNumber (g j) = true) :
    (∃ w, ((numberFrom source g).run v o d).1 = .ok w) ↔ absentOrNumber v = true := by
  unfold absentOrNumber
  cases hv : v.isUndefined with
  | true =>
    obtain rfl := Value.eq_undefined hv
    rw [run_numberFrom_undefined proper]
    exact iff_of_true ⟨_, rfl⟩ rfl
  | false =>
    rw [run_numberFrom_present hv, run_number]
    cases properNumber v <;> simp

/-! ## The items of a sequence -/

/-- What was gathered from the items when the parse ends: as many turns were taken as absent
items were passed, and without a rejected item they stand for these in order. -/
structure TakesTurns (source : Nat) (g : Nat → Value) (o : Options) (d : Draws)
    (items : List Value) (r : Gathered Value × Draws) : Prop where
  /-- One turn for each absent item that the parse came to. -/
  count : r.2.count source = d.count source + (passedItems o items).countP Value.isUndefined
  /-- The values of these turns stand for the absent items. -/
  filled : items.all absentOrNumber = true → r.1.failures = [] ∧
    Filled items ((List.range' (d.count source) (items.countP Value.isUndefined)).map g) r.1.outputs
  /-- A rejected item leaves a failure. -/
  rejected : items.all absentOrNumber = false → r.1.failures ≠ []

theorem passedItems_cons_of_passed (rest : List Value) (h : absentOrNumber v = true) :
    passedItems o (v :: rest) = v :: passedItems o rest := by
  unfold passedItems
  split
  · exact List.takeWhile_cons_of_pos h
  · rfl

theorem all_cons_of_passed (rest : List Value) (h : absentOrNumber v = true) :
    (v :: rest).all absentOrNumber = rest.all absentOrNumber := by
  rw [List.all_cons, h, Bool.true_and]

section Steps
variable {rest : List Value} {r : Gathered Value × Draws}

theorem takesTurns_nil : TakesTurns source g o d [] (.none, d) := by
  have hnone : passedItems o [] = [] := by unfold passedItems; split <;> rfl
  exact ⟨by rw [hnone]; rfl, fun _ => ⟨rfl, .nil⟩, fun h => by cases h⟩

/-- An absent item takes one turn, and the later items take theirs from there. -/
theorem TakesTurns.absent (h : TakesTurns source g o (d.advance source) rest r) :
    TakesTurns source g o d (.undefined :: rest) (r.1.accept (g (d.count source)), r.2) := by
  obtain ⟨hcount, hfilled, hrejected⟩ := h
  rw [Draws.count_advance, if_pos rfl] at hcount hfilled
  have habsent : Value.undefined.isUndefined = true := rfl
  have hpassed : absentOrNumber .undefined = true := rfl
  refine ⟨?_, fun hall => ?_, fun hall => ?_⟩
  · rw [passedItems_cons_of_passed rest hpassed, List.countP_cons_of_pos habsent]
    refine hcount.trans ?_
    omega
  · obtain ⟨hfailures, houtputs⟩ := hfilled ((all_cons_of_passed rest hpassed).symm.trans hall)
    refine ⟨hfailures, ?_⟩
    rw [List.countP_cons_of_pos habsent, List.range'_succ, List.map_cons]
    exact .absent _ houtputs
  · exact hrejected ((all_cons_of_passed rest hpassed).symm.trans hall)

/-- A number takes no turn. -/
theorem TakesTurns.present (h : TakesTurns source g o d rest r) (hv : v.isUndefined = false)
    (hproper : properNumber v = true) :
    TakesTurns source g o d (v :: rest) (r.1.accept v, r.2) := by
  obtain ⟨hcount, hfilled, hrejected⟩ := h
  have hnone : ¬ v.isUndefined = true := Bool.eq_false_iff.mp hv
  have hpassed : absentOrNumber v = true := by rw [absentOrNumber, hproper, Bool.or_true]
  refine ⟨?_, fun hall => ?_, fun hall => ?_⟩
  · rw [passedItems_cons_of_passed rest hpassed, List.countP_cons_of_neg hnone]
    exact hcount
  · obtain ⟨hfailures, houtputs⟩ := hfilled ((all_cons_of_passed rest hpassed).symm.trans hall)
    refine ⟨hfailures, ?_⟩
    rw [List.countP_cons_of_neg hnone]
    exact .present hv houtputs
  · exact hrejected ((all_cons_of_passed rest hpassed).symm.trans hall)

/-- A rejected item takes no turn either, and the later items only take theirs when the parse
goes on. -/
theorem TakesTurns.rejects (h : TakesTurns source g o d rest r) (hv : absentOrNumber v = false)
    (es : Failures) :
    TakesTurns source g o d (v :: rest)
      (if o.abortEarly then (Gathered.none.reject es, d) else (r.1.reject es, r.2)) := by
  refine ⟨?_, fun hall => ?_, fun _ => ?_⟩
  · unfold passedItems
    split
    · rw [List.takeWhile_cons_of_neg (Bool.eq_false_iff.mp hv)]
      rfl
    · have hnone : ¬ v.isUndefined = true :=
        Bool.eq_false_iff.mp (Bool.or_eq_false_iff.mp hv).1
      have hcount := h.count
      rw [passedItems, if_neg ‹_›] at hcount
      rw [List.countP_cons_of_neg hnone]
      exact hcount
  · rw [List.all_cons, hv, Bool.false_and] at hall
    cases hall
  · split
    · exact Gathered.failures_reject _ _
    · exact Gathered.failures_reject _ _

end Steps

theorem gather_takesTurns (proper : ∀ j, properNumber (g j) = true) (o : Options) (i : Nat)
    (items : List Value) (d : Draws) :
    TakesTurns source g o d items
      (gatherItems (fun v => (numberFrom source g).run v o) o i items d) := by
  induction items generalizing i d with
  | nil => exact takesTurns_nil
  | cons v rest ih =>
    cases hv : v.isUndefined with
    | true =>
      obtain rfl := Value.eq_undefined hv
      rw [gatherItems_cons_of_ok (run_numberFrom_undefined proper o d)]
      exact (ih (i + 1) (d.advance source)).absent
    | false =>
      have hitem : (numberFrom source g).run v o d = _ := run_numberFrom_present hv o d
      rw [run_number] at hitem
      cases hproper : properNumber v with
      | true =>
        rw [hproper, if_pos rfl] at hitem
        rw [gatherItems_cons_of_ok hitem]
        exact (ih (i + 1) d).present hv hproper
      | false =>
        rw [hproper, if_neg Bool.false_ne_true] at hitem
        rw [gatherItems_cons_of_error hitem]
        exact (ih (i + 1) d).rejects (by rw [absentOrNumber, hv, hproper]; rfl) _

/-! ## One parse -/

theorem run_numbers (source : Nat) (g : Nat → Value) (items : List Value) (o : Options)
    (d : Draws) :
    (array (numberFrom source g) {}).run (.array items) o d =
      ((gatherItems (fun v => (numberFrom source g).run v o) o 0 items d).1.outcome Value.array,
        (gatherItems (fun v => (numberFrom source g).run v o) o 0 items d).2) := by
  rw [array, run_unstepped, Shape.base]
  rfl

/-- A parse takes one turn for each value that it substitutes. -/
theorem count_numbers (proper : ∀ j, properNumber (g j) = true) (v : Value) (o : Options)
    (d : Draws) :
    ((array (numberFrom source g) {}).run v o d).2.count source =
      d.count source + substitutions o v := by
  cases v with
  | array items =>
    rw [run_numbers]
    exact (gather_takesTurns proper o 0 items d).count
  | _ =>
    rw [array_of_other (by simp [Value.typeName])]
    rfl

theorem numbers_eq_ok {items : List Value} {z : Value}
    (proper : ∀ j, properNumber (g j) = true)
    (h : ((array (numberFrom source g) {}).run (.array items) o d).1 = .ok z) :
    items.all absentOrNumber = true ∧ ∃ zs, z = .array zs ∧
      Filled items ((List.range' (d.count source) (items.countP Value.isUndefined)).map g) zs := by
  have hturns := @gather_takesTurns source g proper o 0 items d
  rw [run_numbers] at h
  obtain ⟨hfailures, rfl⟩ := Gathered.outcome_eq_ok_iff.mp h
  cases hall : items.all absentOrNumber with
  | true => exact ⟨rfl, _, rfl, (hturns.filled hall).2⟩
  | false => exact absurd hfailures (hturns.rejected hall)

theorem numbers_eq_error {items : List Value} {es : Failures}
    (proper : ∀ j, properNumber (g j) = true)
    (h : ((array (numberFrom source g) {}).run (.array items) o d).1 = .error es) :
    items.all absentOrNumber = false := by
  have hturns := @gather_takesTurns source g proper o 0 items d
  rw [run_numbers] at h
  cases hall : items.all absentOrNumber with
  | false => rfl
  | true =>
    rw [Gathered.outcome_eq_ok_iff.mpr ⟨(hturns.filled hall).1, rfl⟩] at h
    cases h

theorem passedItems_of_all {items : List Value} (h : items.all absentOrNumber = true) :
    passedItems o items = items := by
  unfold passedItems
  split
  · exact List.takeWhile_eq_self_iff.mpr (List.all_eq_true.mp h)
  · rfl

/-- Where not all items pass, there is a first one that is rejected. -/
theorem exists_first_rejected {items : List Value} (h : items.all absentOrNumber = false) :
    ∃ before item after, items = before ++ item :: after ∧
      (∀ x ∈ before, absentOrNumber x = true) ∧ absentOrNumber item = false ∧
      items.takeWhile absentOrNumber = before := by
  induction items with
  | nil => cases h
  | cons v rest ih =>
    cases hv : absentOrNumber v with
    | true =>
      obtain ⟨before, item, after, rfl, hbefore, hitem, htake⟩ := ih (by simpa [hv] using h)
      refine ⟨v :: before, item, after, rfl, List.forall_mem_cons.mpr ⟨hv, hbefore⟩, hitem, ?_⟩
      rw [List.takeWhile_cons_of_pos hv, htake]
    | false =>
      exact ⟨[], v, rest, rfl, fun x hx => absurd hx List.not_mem_nil, hv,
        List.takeWhile_cons_of_neg (by simp [hv])⟩

/-! ## One parse after another -/

/-- The turns are consecutive, from one parse to the next as well. -/
theorem flatten_turns (c : Nat) (requests : List (Options × Value)) :
    (turns c requests).flatten = List.range' c (turns c requests).flatten.length := by
  induction requests generalizing c with
  | nil => rfl
  | cons r rest ih =>
    rw [turns, List.flatten_cons, List.length_append, List.length_range', ← List.range'_append_1,
      ← ih]

/-- Parses one after the other take the turns that `turns` lists, and the values of these turns
stand for the absent items of those that succeed. -/
theorem parses_numbers (proper : ∀ j, properNumber (g j) = true)
    (requests : List (Options × Value)) (d : Draws) :
    let run := (array (numberFrom source g) {}).parses requests d
    run.2.count source = d.count source + (turns (d.count source) requests).flatten.length ∧
    ∀ (k : Nat) (o : Options) (items : List Value) (js : List Nat) (z : Value),
      requests[k]? = some (o, .array items) → (turns (d.count source) requests)[k]? = some js →
      run.1[k]? = some (.ok z) → ∃ zs, z = .array zs ∧ Filled items (js.map g) zs := by
  induction requests generalizing d with
  | nil => exact ⟨rfl, fun k o items js z hrequest => by cases hrequest⟩
  | cons r rest ih =>
    obtain ⟨o, v⟩ := r
    intro run
    have hfirst : ((array (numberFrom source g) {}).safeParse o v d).2.count source =
        d.count source + substitutions o v := count_numbers proper v o d
    have hrun : run = _ := parses_cons (array (numberFrom source g) {}) o v rest d
    obtain ⟨hcount, hfilled⟩ := ih ((array (numberFrom source g) {}).safeParse o v d).2
    rw [hfirst] at hcount hfilled
    rw [hrun, turns]
    refine ⟨?_, fun k o' items js z hrequest hturn hresult => ?_⟩
    · rw [List.flatten_cons, List.length_append, List.length_range', ← Nat.add_assoc]
      exact hcount
    · cases k with
      | zero =>
        obtain ⟨rfl, rfl⟩ := Prod.mk.inj (Option.some.inj hrequest)
        obtain ⟨hall, zs, hz, hzs⟩ := numbers_eq_ok proper (Option.some.inj hresult)
        obtain rfl := Option.some.inj hturn
        refine ⟨zs, hz, ?_⟩
        rw [substitutions, passedItems_of_all hall]
        exact hzs
      | succ k => exact hfilled k o' items js z hrequest hturn hresult

end Numbers

/-- **Every substitution takes one turn of the source, and no other does.**  A parse that
succeeds puts the next values of the source in the places of the absent items, from left to
right, and leaves the other items as they are.  One that fails has taken a turn for every
absent item when it collects failures, and for every absent item before the first rejected one
when it ends early.  So parses one after the other, of the schema and of copies of it, take
consecutive turns: none is taken twice, and none is left out. -/
theorem turns_taken_once {source : Nat} {g : Nat → Value}
    (numeric : ∀ j, ∃ x : Double, g j = .number x ∧ x.isNaN = false) :
    let element := defaultFrom source g (leaf .number {})
    let numbers := array element {}
    (∀ (o : Options) (items : List Value) (d : Draws),
      let c := d.count source
      let n := items.countP Value.isUndefined
      let r := numbers.safeParse o (.array items) d
      (∀ z, r.1 = .ok z → r.2.count source = c + n ∧
        ∃ zs, z = .array zs ∧ Filled items ((List.range' c n).map g) zs) ∧
      (∀ es, r.1 = .error es → o.abortEarly = false → r.2.count source = c + n) ∧
      (∀ es, r.1 = .error es → o.abortEarly = true →
        ∃ before item after, items = before ++ item :: after ∧
          (∀ x ∈ before, ∀ d', ∃ w, (element.safeParse o x d').1 = .ok w) ∧
          (∀ d' w, (element.safeParse o item d').1 ≠ .ok w) ∧
          r.2.count source = c + before.countP Value.isUndefined)) ∧
    ∀ (requests : List (Options × Value)) (d : Draws),
      let c := d.count source
      let taken := (turns c requests).flatten
      let run := numbers.parses requests d
      taken = List.range' c taken.length ∧ run.2.count source = c + taken.length ∧
      ∀ (k : Nat) (o : Options) (items : List Value) (js : List Nat) (z : Value),
        requests[k]? = some (o, .array items) → (turns c requests)[k]? = some js →
        run.1[k]? = some (.ok z) → ∃ zs, z = .array zs ∧ Filled items (js.map g) zs := by
  intro element numbers
  have proper : ∀ j, properNumber (g j) = true := by
    intro j
    obtain ⟨x, hx, hnan⟩ := numeric j
    rw [hx, properNumber, Condition.number, hnan]
    rfl
  refine ⟨fun o items d => ⟨fun z hz => ?_, fun es hes ho => ?_, fun es hes ho => ?_⟩,
    fun requests d => ?_⟩
  · obtain ⟨hall, hzs⟩ := numbers_eq_ok proper hz
    refine ⟨(count_numbers proper (.array items) o d).trans ?_, hzs⟩
    rw [substitutions, passedItems_of_all hall]
  · refine (count_numbers proper (.array items) o d).trans ?_
    rw [substitutions, passedItems, if_neg (Bool.eq_false_iff.mp ho)]
  · obtain ⟨before, item, after, hsplit, hbefore, hitem, htake⟩ :=
      exists_first_rejected (numbers_eq_error proper hes)
    refine ⟨before, item, after, hsplit, fun x hx d' => ?_, fun d' w hw => ?_, ?_⟩
    · exact (numberFrom_accepts_iff proper).mpr (hbefore x hx)
    · have haccepted := (numberFrom_accepts_iff proper).mp ⟨w, hw⟩
      exact Bool.false_ne_true (hitem.symm.trans haccepted)
    · refine (count_numbers proper (.array items) o d).trans ?_
      rw [substitutions, passedItems, if_pos ho, htake]
  · obtain ⟨hcount, hfilled⟩ := parses_numbers proper requests d
    exact ⟨flatten_turns _ requests, hcount, hfilled⟩

/-- Two parses fail, the first of them early; the third goes on where they left the source. -/
theorem turns_taken_once_after_failures :
    let g := fun j : Nat => Value.number (Double.zero (j == 3))
    let numbers := array (defaultFrom 0 g (leaf .number {})) {}
    let items := [Value.undefined, .null, .undefined]
    let requests := [({}, .array items), (.collectAll, .array items), ({}, .array [.undefined])]
    (∀ j, ∃ x : Double, g j = .number x ∧ x.isNaN = false) ∧
    (numbers.safeParse {} (.array items) []).2.count 0 = 1 ∧
    (numbers.safeParse .collectAll (.array items) [1]).2.count 0 = 3 ∧
    (turns 0 requests).flatten = [0, 1, 2, 3] ∧
    ∃ zs, (numbers.parses requests []).1[2]? = some (.ok (.array zs)) ∧
      Filled [.undefined] [.number (Double.zero true)] zs := by
  intro g numbers items requests
  have numeric : ∀ j, ∃ x : Double, g j = .number x ∧ x.isNaN = false := fun j => ⟨_, rfl, rfl⟩
  obtain ⟨hparse, hparses⟩ := @turns_taken_once 0 g numeric
  refine ⟨numeric, rfl, ?_, (hparses requests []).1, ?_⟩
  · obtain ⟨-, hcollect, -⟩ := hparse .collectAll items [1]
    have hrejected : ∃ es, (numbers.safeParse .collectAll (.array items) [1]).1 = .error es :=
      ⟨_, rfl⟩
    obtain ⟨es, hes⟩ := hrejected
    exact hcollect es hes rfl
  · have hthird : (numbers.parses requests []).1[2]? = some (.ok (.array [g 3])) := rfl
    obtain ⟨zs, hz, hfilled⟩ :=
      (hparses requests []).2.2 2 {} [.undefined] [3] _ rfl rfl hthird
    exact ⟨zs, hz ▸ hthird, hfilled⟩

end Schema
end SchemaEngine
