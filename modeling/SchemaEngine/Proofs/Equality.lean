import Mathlib.Data.List.Nodup
import Mathlib.Data.List.Perm.Subperm
import SchemaEngine.Check.Items

/-!
# Equality of values as identity of forms

`Value.equals` compares two values member by member, by looking names up, and so it says
little about a third value.  It becomes identity once two differences are taken away that
it does not see: the sign of zeros (`Value.uniformZeros`) and the order of members
(`Value.byName`).  What is left is the canonical form of a value, and two values are equal
when they have the same and the first holds no NaN (`Value.equals_iff`).

The order of members alone is kept by the outline of a value, which forgets everything else.
Values that are equal and have the same outline differ in the sign of zeros only.
-/

namespace SchemaEngine

namespace Value

/-! ## Induction over values -/

/-- A property that passes from the items to a sequence and from the members to an object,
and that all other values have, holds of every value. -/
@[elab_as_elim]
theorem induction {motive : Value → Prop} (undefined : motive .undefined) (null : motive .null)
    (bool : ∀ b, motive (.bool b)) (number : ∀ x, motive (.number x))
    (text : ∀ s, motive (.text s)) (date : ∀ t, motive (.date t))
    (array : ∀ items, (∀ v ∈ items, motive v) → motive (.array items))
    (object : ∀ members, (∀ p ∈ members, motive p.2) → motive (.object members)) :
    ∀ v, motive v
  | .undefined => undefined
  | .null => null
  | .bool b => bool b
  | .number x => number x
  | .text s => text s
  | .date t => date t
  | .array items => array items fun v hv =>
      have := List.sizeOf_lt_of_mem hv
      induction undefined null bool number text date array object v
  | .object members => object members fun p hp =>
      have hlt : sizeOf p.2 < sizeOf members := by
        have := List.sizeOf_lt_of_mem hp
        rw [show p = (p.1, p.2) from rfl, Prod.mk.sizeOf_spec] at this
        omega
      induction undefined null bool number text date array object p.2
termination_by v => sizeOf v

/-! ## Forms -/

mutual

/-- No number in the value is a NaN. -/
def NaNFree : Value → Prop
  | .number x => x.isNaN = false
  | .array items => NaNFreeItems items
  | .object members => NaNFreeMembers members
  | _ => True

/-- No number in the items is a NaN. -/
def NaNFreeItems : List Value → Prop
  | [] => True
  | v :: rest => v.NaNFree ∧ NaNFreeItems rest

/-- No number in the members is a NaN. -/
def NaNFreeMembers : List (String × Value) → Prop
  | [] => True
  | (_, v) :: rest => v.NaNFree ∧ NaNFreeMembers rest

end

mutual

/-- The value with the members of every object in the order of their names. -/
def byName : Value → Value
  | .array items => .array (byNameItems items)
  | .object members => .object (Entries.sortByName (byNameMembers members))
  | v => v

/-- Items with the members of every object in the order of their names. -/
def byNameItems : List Value → List Value
  | [] => []
  | v :: rest => v.byName :: byNameItems rest

/-- Members with the members of every object inside in the order of their names. -/
def byNameMembers : List (String × Value) → List (String × Value)
  | [] => []
  | (name, v) :: rest => (name, v.byName) :: byNameMembers rest

end

mutual

/-- What is left of a value when only sequences and names, in their order, are kept. -/
def outline : Value → Value
  | .array items => .array (outlineItems items)
  | .object members => .object (outlineMembers members)
  | _ => .undefined

/-- The outlines of items. -/
def outlineItems : List Value → List Value
  | [] => []
  | v :: rest => v.outline :: outlineItems rest

/-- The outlines of members. -/
def outlineMembers : List (String × Value) → List (String × Value)
  | [] => []
  | (name, v) :: rest => (name, v.outline) :: outlineMembers rest

end

/-- The value with positive zeros and with members in the order of their names. -/
def canonical (v : Value) : Value := v.byName.uniformZeros

section Lists
variable (items : List Value) (members : List (String × Value))

theorem nanFreeItems_iff : NaNFreeItems items ↔ ∀ v ∈ items, v.NaNFree := by
  induction items with
  | nil => simp [NaNFreeItems]
  | cons v rest ih => simp [NaNFreeItems, ih]

theorem nanFreeMembers_iff : NaNFreeMembers members ↔ ∀ p ∈ members, p.2.NaNFree := by
  induction members with
  | nil => simp [NaNFreeMembers]
  | cons p rest ih => simp only [NaNFreeMembers, ih, List.forall_mem_cons]

theorem byNameItems_eq_map : byNameItems items = items.map byName := by
  induction items with
  | nil => rfl
  | cons v rest ih => simp only [byNameItems, ih, List.map_cons]

theorem byNameMembers_eq_map :
    byNameMembers members = members.map fun p => (p.1, p.2.byName) := by
  induction members with
  | nil => rfl
  | cons p rest ih => simp only [byNameMembers, ih, List.map_cons]

theorem outlineItems_eq_map : outlineItems items = items.map outline := by
  induction items with
  | nil => rfl
  | cons v rest ih => simp only [outlineItems, ih, List.map_cons]

theorem outlineMembers_eq_map :
    outlineMembers members = members.map fun p => (p.1, p.2.outline) := by
  induction members with
  | nil => rfl
  | cons p rest ih => simp only [outlineMembers, ih, List.map_cons]

theorem uniformItems_eq_map : uniformItems items = items.map uniformZeros := by
  induction items with
  | nil => rfl
  | cons v rest ih => simp only [uniformItems, ih, List.map_cons]

theorem uniformMembers_eq_map :
    uniformMembers members = members.map fun p => (p.1, p.2.uniformZeros) := by
  induction members with
  | nil => rfl
  | cons p rest ih => simp only [uniformMembers, ih, List.map_cons]

end Lists

theorem byName_uniformZeros (v : Value) : v.uniformZeros.byName = v.canonical := by
  induction v using Value.induction with
  | number x => cases hx : x.isZero <;> simp [canonical, byName, uniformZeros, hx]
  | array items ih =>
    simp only [canonical, uniformZeros, byName, uniformItems_eq_map, byNameItems_eq_map,
      List.map_map]
    exact congrArg array (List.map_congr_left ih)
  | object members ih =>
    have hmembers : (members.map fun p => (p.1, p.2.uniformZeros)).map
        (fun p => (p.1, p.2.byName)) =
          (members.map fun p => (p.1, p.2.byName)).map fun p => (p.1, p.2.uniformZeros) := by
      simp only [List.map_map]
      exact List.map_congr_left fun p hp => congrArg (p.1, ·) (ih p hp)
    simp only [canonical, uniformZeros, byName, uniformMembers_eq_map, byNameMembers_eq_map,
      hmembers, Entries.sortByName_map]
  | _ => rfl

theorem canonical_array (items : List Value) :
    (array items).canonical = .array (items.map canonical) := by
  simp only [canonical, byName, uniformZeros, byNameItems_eq_map, uniformItems_eq_map,
    List.map_map]
  rfl

theorem canonical_object (members : List (String × Value)) :
    (object members).canonical =
      .object (Entries.sortByName (members.map fun p => (p.1, p.2.canonical))) := by
  simp only [canonical, byName, uniformZeros, byNameMembers_eq_map, uniformMembers_eq_map]
  rw [← Entries.sortByName_map, List.map_map]
  rfl

/-! ## Equality -/

/-- Numbers are equal when they are no NaN and the same but for the sign of zero. -/
theorem number_equals_iff (x y : Double) :
    x.equals y = true ↔ x.isNaN = false ∧ (number x).uniformZeros = (number y).uniformZeros := by
  cases x with
  | nan => simp [Double.equals, Double.isNaN]
  | infinite s =>
    cases y with
    | finite t w h =>
      by_cases hw : w = 0 <;>
        simp [Double.equals, Double.isNaN, uniformZeros, Double.isZero, Double.zero, hw]
    | _ => simp [Double.equals, Double.isNaN, uniformZeros, Double.isZero]
  | finite s u h =>
    cases y with
    | finite t w h' =>
      by_cases hu : u = 0 <;> by_cases hw : w = 0 <;> cases s <;> cases t <;>
        simp [Double.equals, Double.isNaN, uniformZeros, Double.isZero, Double.zero,
          Double.signed, hu, hw] <;> omega
    | _ =>
      by_cases hu : u = 0 <;>
        simp [Double.equals, Double.isNaN, uniformZeros, Double.isZero, Double.zero, hu]

theorem includedIn_iff {ms ns : List (String × Value)} :
    includedIn ms ns = true ↔
      ∀ p ∈ ms, ∃ w, Entries.find? p.1 ns = some w ∧ p.2.equals w = true := by
  induction ms with
  | nil => simp [includedIn]
  | cons p rest ih =>
    simp only [includedIn, Bool.and_eq_true, ih, List.forall_mem_cons]
    refine and_congr_left' ?_
    cases Entries.find? p.1 ns <;> simp

end Value

/-- Entries are the same in some order, up to `f`, when there are as many and each is found
in the other list under its name. -/
theorem Entries.map_perm_map_iff {α β : Type} {es fs : Entries α} (f : α → β)
    (h : es.Distinct) (h' : fs.Distinct) :
    (es.map fun p => (p.1, f p.2)).Perm (fs.map fun p => (p.1, f p.2)) ↔
      es.length = fs.length ∧ ∀ p ∈ es, ∃ y, fs.find? p.1 = some y ∧ f p.2 = f y := by
  constructor
  · intro hperm
    refine ⟨by simpa using hperm.length_eq, fun p hp => ?_⟩
    obtain ⟨q, hq, heq⟩ := List.mem_map.mp (hperm.mem_iff.mp (List.mem_map_of_mem hp))
    obtain ⟨hname, hf⟩ := Prod.mk.inj heq
    exact ⟨q.2, hname ▸ find?_of_mem h' hq, hf.symm⟩
  · rintro ⟨hlength, hfound⟩
    have hnodup := List.Nodup.of_map Prod.fst (distinct_map f h)
    refine (List.subperm_of_subset hnodup ?_).perm_of_length_le (by simp [hlength])
    intro x hx
    obtain ⟨p, hp, rfl⟩ := List.mem_map.mp hx
    obtain ⟨y, hy, hf⟩ := hfound p hp
    exact List.mem_map.mpr ⟨(p.1, y), mem_of_find? hy, by rw [hf]⟩

namespace Value

theorem typeName_canonical (v : Value) : v.canonical.typeName = v.typeName := by
  cases v with
  | number x => cases hx : x.isZero <;> simp [canonical, byName, uniformZeros, hx, typeName]
  | _ => rfl

theorem typeName_of_canonical {v w : Value} (h : v.canonical = w.canonical) :
    v.typeName = w.typeName := by
  rw [← typeName_canonical v, h, typeName_canonical]

/-- Values of different types are never equal. -/
theorem typeName_of_equals {v w : Value} (h : v.equals w = true) : v.typeName = w.typeName := by
  cases v <;> cases w <;> first | rfl | cases h

theorem equalItems_iff {xs ys : List Value}
    (h : ∀ x ∈ xs, ∀ y ∈ ys, x.equals y = true ↔ x.NaNFree ∧ x.canonical = y.canonical) :
    equalItems xs ys = true ↔ (∀ x ∈ xs, x.NaNFree) ∧ xs.map canonical = ys.map canonical := by
  induction xs generalizing ys with
  | nil => cases ys <;> simp [equalItems]
  | cons x xs ih =>
    cases ys with
    | nil => simp [equalItems]
    | cons y ys =>
      have hfirst := h x (List.mem_cons_self ..) y (List.mem_cons_self ..)
      have hrest := ih fun a ha b hb =>
        h a (List.mem_cons_of_mem _ ha) b (List.mem_cons_of_mem _ hb)
      simp only [equalItems, Bool.and_eq_true, hfirst, hrest, List.forall_mem_cons, List.map_cons,
        List.cons.injEq]
      exact ⟨fun ⟨⟨hn, he⟩, hns, hes⟩ => ⟨⟨hn, hns⟩, he, hes⟩,
        fun ⟨⟨hn, hns⟩, he, hes⟩ => ⟨⟨hn, he⟩, hns, hes⟩⟩

theorem equals_iff_of_types_ne {v w : Value} (hne : v.typeName ≠ w.typeName) :
    v.equals w = true ↔ v.NaNFree ∧ v.canonical = w.canonical := by
  exact ⟨fun h => absurd (typeName_of_equals h) hne,
    fun ⟨_, h⟩ => absurd (typeName_of_canonical h) hne⟩

/-- **Two values are equal when they have the same canonical form** and hold no NaN. -/
theorem equals_iff {v w : Value} (hv : v.WellFormed) (hw : w.WellFormed) :
    v.equals w = true ↔ v.NaNFree ∧ v.canonical = w.canonical := by
  induction v using Value.induction generalizing w with
  | undefined | null | bool | text | date =>
    cases w with
    | undefined | null | bool | text | date =>
      simp [equals, NaNFree, canonical, byName, uniformZeros]
    | _ => exact equals_iff_of_types_ne (by simp [typeName])
  | number x =>
    cases w with
    | number y => exact number_equals_iff x y
    | _ => exact equals_iff_of_types_ne (by simp [typeName])
  | array items ih =>
    cases w with
    | array others =>
      simp only [equals, NaNFree, nanFreeItems_iff, canonical_array, array.injEq]
      exact equalItems_iff fun x hx y hy =>
        ih x hx (wellFormedItems_iff.mp hv x hx) (wellFormedItems_iff.mp hw y hy)
    | _ => exact equals_iff_of_types_ne (by simp [typeName])
  | object members ih =>
    cases w with
    | object others =>
      obtain ⟨hdistinct, hmembers⟩ := hv
      obtain ⟨hdistinct', hothers⟩ := hw
      have hnames := Entries.distinct_map canonical hdistinct
      -- a member is equal to the one found under its name when the two have the same form
      have hmember : ∀ p ∈ members, ∀ y, Entries.find? p.1 others = some y →
          (p.2.equals y = true ↔ p.2.NaNFree ∧ p.2.canonical = y.canonical) :=
        fun p hp y hy => ih p hp (wellFormedMembers_iff.mp hmembers p hp)
          (wellFormedMembers_iff.mp hothers _ (Entries.mem_of_find? hy))
      simp only [equals, NaNFree, nanFreeMembers_iff, canonical_object, object.injEq,
        Bool.and_eq_true, beq_iff_eq, includedIn_iff, Entries.sortByName_eq_iff hnames,
        Entries.map_perm_map_iff canonical hdistinct hdistinct']
      constructor
      · rintro ⟨hlength, hequal⟩
        refine ⟨fun p hp => ?_, hlength, fun p hp => ?_⟩
        · obtain ⟨y, hy, he⟩ := hequal p hp
          exact ((hmember p hp y hy).mp he).1
        · obtain ⟨y, hy, he⟩ := hequal p hp
          exact ⟨y, hy, ((hmember p hp y hy).mp he).2⟩
      · rintro ⟨hnan, hlength, hform⟩
        refine ⟨hlength, fun p hp => ?_⟩
        obtain ⟨y, hy, he⟩ := hform p hp
        exact ⟨y, hy, (hmember p hp y hy).mpr ⟨hnan p hp, he⟩⟩
    | _ => exact equals_iff_of_types_ne (by simp [typeName])

/-! ## The order of members -/

theorem outline_uniformZeros (v : Value) : v.uniformZeros.outline = v.outline := by
  induction v using Value.induction with
  | number x => cases hx : x.isZero <;> simp [uniformZeros, outline, hx]
  | array items ih =>
    simp only [uniformZeros, outline, uniformItems_eq_map, outlineItems_eq_map, List.map_map]
    exact congrArg array (List.map_congr_left ih)
  | object members ih =>
    simp only [uniformZeros, outline, uniformMembers_eq_map, outlineMembers_eq_map, List.map_map]
    exact congrArg object (List.map_congr_left fun p hp => congrArg (p.1, ·) (ih p hp))
  | _ => rfl

end Value

/-- What two functions tell of lists, item by item, a third can be told from. -/
theorem map_eq_map_of {α β γ δ : Type} {xs ys : List α} {f : α → β} {g : α → γ} {k : α → δ}
    (h : ∀ x ∈ xs, ∀ y, f x = f y → g x = g y → k x = k y) (hf : xs.map f = ys.map f)
    (hg : xs.map g = ys.map g) : xs.map k = ys.map k := by
  induction xs generalizing ys with
  | nil => cases ys <;> simp_all
  | cons x xs ih =>
    cases ys with
    | nil => cases hf
    | cons y ys =>
      obtain ⟨hfirst, hrest⟩ := List.cons.inj hf
      obtain ⟨hfirst', hrest'⟩ := List.cons.inj hg
      rw [List.map_cons, List.map_cons, h x (List.mem_cons_self ..) y hfirst hfirst',
        ih (fun z hz => h z (List.mem_cons_of_mem _ hz)) hrest hrest']

namespace Value

/-- Values with the same canonical form whose members stand in the same order differ in the
sign of zeros only. -/
theorem uniformZeros_eq_of_canonical {v w : Value} (hv : v.WellFormed)
    (hform : v.canonical = w.canonical) (hline : v.outline = w.outline) :
    v.uniformZeros = w.uniformZeros := by
  induction v using Value.induction generalizing w with
  | array items ih =>
    cases w with
    | array others =>
      simp only [canonical_array, outline, outlineItems_eq_map, array.injEq] at hform hline
      simp only [uniformZeros, uniformItems_eq_map, array.injEq]
      exact map_eq_map_of (fun x hx y => ih x hx (wellFormedItems_iff.mp hv x hx)) hform hline
    | _ => exact absurd (typeName_of_canonical hform) (by simp [typeName])
  | object members ih =>
    cases w with
    | object others =>
      obtain ⟨hdistinct, hmembers⟩ := hv
      simp only [canonical_object, outline, outlineMembers_eq_map, object.injEq] at hform hline
      simp only [uniformZeros, uniformMembers_eq_map, object.injEq]
      have hnames : Entries.names members = Entries.names others := by
        rw [← Entries.names_map outline members, hline, Entries.names_map]
      have hdistinct := Entries.distinct_map canonical hdistinct
      have hsame := Entries.eq_of_perm_of_names hdistinct
        ((Entries.sortByName_eq_iff hdistinct).mp hform)
        (by rw [Entries.names_map, Entries.names_map, hnames])
      refine map_eq_map_of (fun p hp q hf hg => ?_) hsame hline
      obtain ⟨hname, hform⟩ := Prod.mk.inj hf
      rw [hname, ih p hp (wellFormedMembers_iff.mp hmembers p hp) hform (Prod.mk.inj hg).2]
    | _ => exact absurd (typeName_of_canonical hform) (by simp [typeName])
  | _ =>
    cases w <;> first
      | exact hform
      | exact absurd (typeName_of_canonical hform) (by simp [typeName])

/-- **Values are the same but for the sign of zeros when they are equal and their members
stand in the same order**, as long as they hold no NaN. -/
theorem uniformZeros_eq_iff {v w : Value} (hv : v.WellFormed) (hw : w.WellFormed)
    (hnan : v.NaNFree) :
    v.uniformZeros = w.uniformZeros ↔ v.equals w = true ∧ v.outline = w.outline := by
  rw [equals_iff hv hw]
  constructor
  · intro h
    have hform := congrArg byName h
    have hline := congrArg outline h
    rw [byName_uniformZeros, byName_uniformZeros] at hform
    rw [outline_uniformZeros, outline_uniformZeros] at hline
    exact ⟨⟨hnan, hform⟩, hline⟩
  · rintro ⟨⟨-, hform⟩, hline⟩
    exact uniformZeros_eq_of_canonical hv hform hline

/-- Equal values whose members stand in the order of their names have the same outline. -/
theorem outline_of_equals {v w : Value} (hv : v.WellFormed) (hw : w.WellFormed)
    (hsorted : v.byName = v) (hsorted' : w.byName = w) (h : v.equals w = true) :
    v.outline = w.outline := by
  have hform := ((equals_iff hv hw).mp h).2
  rw [canonical, canonical, hsorted, hsorted'] at hform
  rw [← outline_uniformZeros v, hform, outline_uniformZeros]

end Value

end SchemaEngine
