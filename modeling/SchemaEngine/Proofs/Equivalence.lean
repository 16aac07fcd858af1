import SchemaEngine.Proofs.Composites
import SchemaEngine.Proofs.Equality

/-!
# Equality of values is a partial equivalence

Equality looks the members of the left object up in the right one and compares the lengths;
nothing in it looks the other way.  That it is symmetric and transitive all the same rests on
`Value.equals_iff`: values are equal when they have one canonical form and the first holds no
NaN, and values of one canonical form hold a NaN alike (`nanFree_canonical`).  A value that
holds one is equal to nothing, and every other value is equal to itself.
-/

namespace SchemaEngine

namespace Value

/-! ## Canonical forms -/

theorem isUndefined_canonical (v : Value) : v.canonical.isUndefined = v.isUndefined := by
  cases v with
  | number x => cases hx : x.isZero <;> simp [canonical, byName, uniformZeros, hx, isUndefined]
  | _ => rfl

theorem canonical_number_of_isZero {x : Double} (h : x.isZero = true) :
    (number x).canonical = .number (Double.zero false) := by
  simp [canonical, byName, uniformZeros, h]

theorem canonical_number {x : Double} (h : x.isZero = false) :
    (number x).canonical = .number x := by
  simp [canonical, byName, uniformZeros, h]

/-- The canonical form keeps the numbers of a value, but for the sign of zeros. -/
theorem nanFree_canonical (v : Value) : v.canonical.NaNFree ↔ v.NaNFree := by
  induction v using Value.induction with
  | number x =>
    cases hx : x.isZero with
    | false => rw [canonical_number hx]
    | true =>
      rw [canonical_number_of_isZero hx]
      cases x with
      | finite => exact .rfl
      | _ => cases hx
  | array items ih =>
    simp only [canonical_array, NaNFree, nanFreeItems_iff, List.forall_mem_map]
    exact forall₂_congr ih
  | object members ih =>
    have hperm := Entries.sortByName_perm (members.map fun p => (p.1, p.2.canonical))
    simp only [canonical_object, NaNFree, nanFreeMembers_iff, hperm.mem_iff, List.forall_mem_map]
    exact forall₂_congr ih
  | _ => rfl

theorem canonical_canonical {v : Value} (hv : v.WellFormed) :
    v.canonical.canonical = v.canonical := by
  induction v using Value.induction with
  | number x =>
    cases hx : x.isZero with
    | true => rw [canonical_number_of_isZero hx, canonical_number_of_isZero rfl]
    | false => rw [canonical_number hx, canonical_number hx]
  | array items ih =>
    simp only [canonical_array, List.map_map]
    exact congrArg array
      (List.map_congr_left fun v hmem => ih v hmem (wellFormedItems_iff.mp hv v hmem))
  | object members ih =>
    obtain ⟨hdistinct, hmembers⟩ := hv
    have hsame : (members.map fun p => (p.1, p.2.canonical)).map
        (fun p => (p.1, p.2.canonical)) = members.map fun p => (p.1, p.2.canonical) := by
      rw [List.map_map]
      exact List.map_congr_left fun p hp => congrArg (p.1, ·)
        (ih p hp (wellFormedMembers_iff.mp hmembers p hp))
    simp only [canonical_object]
    rw [← Entries.sortByName_map, hsame,
      Entries.sortByName_sortByName (Entries.distinct_map canonical hdistinct)]
  | _ => rfl

theorem wellFormed_canonical {v : Value} (hv : v.WellFormed) : v.canonical.WellFormed := by
  induction v using Value.induction with
  | number x =>
    cases hx : x.isZero with
    | true => rw [canonical_number_of_isZero hx]; trivial
    | false => rw [canonical_number hx]; trivial
  | array items ih =>
    rw [canonical_array]
    refine wellFormedItems_iff.mpr (List.forall_mem_map.mpr fun v hmem => ?_)
    exact ih v hmem (wellFormedItems_iff.mp hv v hmem)
  | object members ih =>
    obtain ⟨hdistinct, hmembers⟩ := hv
    rw [canonical_object]
    refine ⟨Entries.distinct_sortByName (Entries.distinct_map canonical hdistinct),
      wellFormedMembers_iff.mpr fun p hp => ?_⟩
    obtain ⟨q, hq, rfl⟩ := List.mem_map.mp ((Entries.sortByName_perm _).mem_iff.mp hp)
    exact ih q hq (wellFormedMembers_iff.mp hmembers q hq)
  | _ => exact hv

/-- A value without NaN is equal to its canonical form. -/
theorem canonical_equals {v : Value} (hv : v.WellFormed) (hnan : v.NaNFree) :
    v.canonical.equals v = true :=
  (equals_iff (wellFormed_canonical hv) hv).mpr
    ⟨(nanFree_canonical v).mpr hnan, canonical_canonical hv⟩

/-! ## Symmetry and transitivity -/

theorem equals_symm {v w : Value} (hv : v.WellFormed) (hw : w.WellFormed)
    (h : v.equals w = true) : w.equals v = true := by
  obtain ⟨hnan, hform⟩ := (equals_iff hv hw).mp h
  refine (equals_iff hw hv).mpr ⟨?_, hform.symm⟩
  rw [← nanFree_canonical, ← hform, nanFree_canonical]
  exact hnan

theorem equals_trans {u v w : Value} (hu : u.WellFormed) (hv : v.WellFormed)
    (hw : w.WellFormed) (h : u.equals v = true) (h' : v.equals w = true) :
    u.equals w = true := by
  obtain ⟨hnan, hform⟩ := (equals_iff hu hv).mp h
  obtain ⟨-, hform'⟩ := (equals_iff hv hw).mp h'
  exact (equals_iff hu hw).mpr ⟨hnan, hform.trans hform'⟩

theorem equals_self_iff {v : Value} (hv : v.WellFormed) : v.equals v = true ↔ v.NaNFree :=
  (equals_iff hv hv).trans (and_iff_left rfl)

theorem equalItems_iff_forall₂ (xs ys : List Value) :
    equalItems xs ys = true ↔ List.Forall₂ (fun x y => x.equals y = true) xs ys := by
  induction xs generalizing ys with
  | nil => cases ys <;> simp [equalItems]
  | cons x xs ih => cases ys <;> simp [equalItems, ih]

/-- Objects are equal when they have the same names and equal members under each name: as the
names of an object are distinct, equal lengths and names that are found leave no name over. -/
theorem object_equals_iff {ms ns : Entries Value} (hms : ms.Distinct) (hns : ns.Distinct) :
    (object ms).equals (object ns) = true ↔
      (∀ name, name ∈ ms.names ↔ name ∈ ns.names) ∧
      ∀ name x y, ms.find? name = some x → ns.find? name = some y → x.equals y = true := by
  have hlengths : ms.length = ns.length ↔ ms.names.length = ns.names.length := by
    simp [Entries.names]
  simp only [equals, Bool.and_eq_true, beq_iff_eq, includedIn_iff, hlengths]
  constructor
  · rintro ⟨hlength, hfound⟩
    have hsubset : ms.names ⊆ ns.names := by
      intro name hname
      obtain ⟨p, hp, rfl⟩ := List.mem_map.mp hname
      obtain ⟨y, hy, -⟩ := hfound p hp
      exact List.mem_map.mpr ⟨(p.1, y), Entries.mem_of_find? hy, rfl⟩
    have hperm := (List.subperm_of_subset hms hsubset).perm_of_length_le (Nat.le_of_eq hlength.symm)
    refine ⟨fun name => hperm.mem_iff, fun name x y hx hy => ?_⟩
    obtain ⟨z, hz, hequal⟩ := hfound (name, x) (Entries.mem_of_find? hx)
    obtain rfl := Option.some.inj (hz.symm.trans hy)
    exact hequal
  · rintro ⟨hnames, hequal⟩
    refine ⟨((List.perm_ext_iff_of_nodup hms hns).mpr hnames).length_eq, fun p hp => ?_⟩
    obtain ⟨q, hq, hname⟩ := List.mem_map.mp ((hnames p.1).mp (List.mem_map_of_mem hp))
    have hy : ns.find? p.1 = some q.2 := hname ▸ Entries.find?_of_mem hns hq
    exact ⟨q.2, hy, hequal p.1 p.2 q.2 (Entries.find?_of_mem hms hp) hy⟩

end Value

/-- What accepts a value when a test holds of it accepts it just then. -/
theorem Drawing.ite_eq_ok_iff (b : Bool) (v : Value) (e : Failures) (d : Draws) :
    (if b = true then pure (.ok v) else pure (.error e) : Drawing Outcome) d = (.ok v, d) ↔
      b = true := by
  cases b with
  | true => exact iff_of_true rfl rfl
  | false =>
    refine iff_of_false (fun h => ?_) Bool.false_ne_true
    have houtcome : (.error e : Outcome) = .ok v := congrArg Prod.fst h
    cases houtcome

/-- A literal schema accepts the values equal to its own, and so does the schema of the kind. -/
theorem Schema.literal_accepts_iff (v w : Value) (label : Label) (o : Options) (d : Draws) :
    ((literal w label).safeParse o v d = (.ok v, d) ↔ v.equals w = true) ∧
    ((leaf (.equals w) label).safeParse o v d = (.ok v, d) ↔ v.equals w = true) := by
  simp only [safeParse, literal, leaf, Primitive.equals, run_unstepped, Shape.base, Test.holds,
    pure_bind]
  exact ⟨Drawing.ite_eq_ok_iff _ v _ d, Drawing.ite_eq_ok_iff _ v _ d⟩

/-- **Equality of values is a partial equivalence, and NaN is its only exception**: it is
symmetric and transitive, and a value is equal to itself when it holds no NaN.  It does not
cross types; sequences are equal item by item and objects name by name.  Literal schemas and
the kind of values equal to one value go by it. -/
theorem Value.equals_partial_equivalence {u v w : Value} (hu : u.WellFormed)
    (hv : v.WellFormed) (hw : w.WellFormed) :
    (v.equals w = true → w.equals v = true) ∧
    (u.equals v = true → v.equals w = true → u.equals w = true) ∧
    (v.equals v = true ↔ v.NaNFree) ∧
    (v.typeName ≠ w.typeName → v.equals w = false) ∧
    (∀ ms ns : Entries Value, v = .object ms → w = .object ns →
      (v.equals w = true ↔ (∀ name, name ∈ ms.names ↔ name ∈ ns.names) ∧
        ∀ name x y, ms.find? name = some x → ns.find? name = some y → x.equals y = true)) ∧
    (∀ xs ys : List Value, v = .array xs → w = .array ys →
      (v.equals w = true ↔ xs.length = ys.length ∧
        ∀ i (hi : i < xs.length) (hi' : i < ys.length), xs[i].equals ys[i] = true)) ∧
    ∀ (label : Label) (o : Options) (d : Draws),
      ((Schema.literal w label).safeParse o v d = (.ok v, d) ↔ v.equals w = true) ∧
      ((Schema.leaf (.equals w) label).safeParse o v d = (.ok v, d) ↔ v.equals w = true) := by
  refine ⟨equals_symm hv hw, equals_trans hu hv hw, equals_self_iff hv, fun hne => ?_, ?_, ?_,
    Schema.literal_accepts_iff v w⟩
  · rw [Bool.eq_false_iff]
    exact fun h => hne (typeName_of_equals h)
  · rintro ms ns rfl rfl
    exact object_equals_iff hv.1 hw.1
  · rintro xs ys rfl rfl
    exact (equalItems_iff_forall₂ xs ys).trans List.forall₂_iff_get

/-- Objects with their members in another order and a zero of the other sign. -/
theorem Value.equals_partial_equivalence_of_reordered :
    let u := object [("a", .number (Double.zero true)), ("b", .array [.null])]
    let v := object [("b", .array [.null]), ("a", .number (Double.zero false))]
    u.WellFormed ∧ v.WellFormed ∧ u.equals v = true ∧ v.equals u = true ∧ u.equals u = true := by
  intro u v
  have hu : u.WellFormed := by
    simp [u, WellFormed, WellFormedMembers, WellFormedItems, Entries.Distinct, Entries.names]
  have hv : v.WellFormed := by
    simp [v, WellFormed, WellFormedMembers, WellFormedItems, Entries.Distinct, Entries.names]
  have hequal : u.equals v = true := by decide
  have laws := equals_partial_equivalence hu hv hu
  have hequal' := (equals_partial_equivalence hv hu hv).1 hequal
  exact ⟨hu, hv, hequal, hequal', laws.2.1 hequal hequal'⟩

end SchemaEngine
