import SchemaEngine.Proofs.Equivalence
import SchemaEngine.Proofs.WholeNumbers
import SchemaEngine.Value.Document

/-!
# Values and their documents

A document keeps neither the order of members nor the sign of zeros: a value and its canonical
form have one document and one text (`toJson_canonical`, `display_canonical`).  As equal values
have one canonical form, they print alike.

A document has no absent values, no dates and no numbers that are not finite.  A value that
has none of them either is `Plain`, and reading its document gives its canonical form
(`ofJson_toJson`), which is equal to it: the document of a plain value tells it from all plain
values that are not equal to it.  Other values lose something on the way to their document,
but nothing more on the way back and forth again.
-/

namespace SchemaEngine

/-! ## Numbers -/

namespace Double

attribute [local irreducible] one bound

theorem exactInteger?_of_isZero {x : Double} (h : x.isZero = true) :
    x.exactInteger? = some 0 := by
  cases x with
  | finite s u hu =>
    obtain rfl : u = 0 := eq_of_beq h
    refine exactInteger?_eq_some_iff.mpr ⟨wholeNumber?_eq_some_iff.mpr ?_, by norm_num⟩
    refine ⟨s, by simpa using hu, by simp, ?_⟩
    cases s <;> rfl
  | _ => cases h

theorem toJson_of_exactInteger {x : Double} {n : Int} (h : x.exactInteger? = some n) :
    x.toJson = .integer n := by
  simp only [toJson, h]

theorem toJson_of_none {x : Double} (h : x.exactInteger? = none) :
    x.toJson = if x.isFinite then .real x else .null := by
  simp only [toJson, h]

/-- The double of the integer that a number other than zero stands for is that number. -/
theorem ofInt_of_exactInteger {x : Double} {n : Int} (h : x.exactInteger? = some n)
    (hx : x.isZero = false) : ofInt n = x := by
  obtain ⟨hwhole, hsize⟩ := exactInteger?_eq_some_iff.mp h
  obtain ⟨s, hu, rfl, hsign⟩ := wholeNumber?_eq_some_iff.mp hwhole
  have hn : n.natAbs ≠ 0 := by
    intro hzero
    simp [isZero, hzero] at hx
  have hs : decide (n < 0) = s := by
    cases s with
    | false =>
      have hsign : (n.natAbs : Int) = n := hsign
      exact decide_eq_false (by omega)
    | true =>
      have hsign : -(n.natAbs : Int) = n := hsign
      exact decide_eq_true (by omega)
  rw [ofInt_eq hsize.le]
  simp only [hs]

end Double

namespace Value

section Lists
variable (items : List Value) (members : List (String × Value)) (docs : List Json)
  (named : List (String × Json))

theorem documentItems_eq_map : documentItems items = items.map toJson := by
  induction items with
  | nil => rfl
  | cons v rest ih => simp only [documentItems, ih, List.map_cons]

theorem documentMembers_eq_map : documentMembers members =
    (members.filter fun p => !p.2.isUndefined).map fun p => (p.1, p.2.toJson) := by
  induction members with
  | nil => rfl
  | cons p rest ih => cases hp : p.2.isUndefined <;> simp [documentMembers, hp, ih]

theorem valueItems_eq_map : valueItems docs = docs.map ofJson := by
  induction docs with
  | nil => rfl
  | cons j rest ih => simp only [valueItems, ih, List.map_cons]

theorem valueMembers_eq_map : valueMembers named = named.map fun p => (p.1, ofJson p.2) := by
  induction named with
  | nil => rfl
  | cons p rest ih => simp only [valueMembers, ih, List.map_cons]

end Lists

theorem distinct_documentMembers {members : Entries Value} (h : members.Distinct) :
    Entries.Distinct (documentMembers members) := by
  rw [documentMembers_eq_map]
  exact Entries.distinct_map toJson (h.sublist (List.filter_sublist.map Prod.fst))

/-! ## A document read and written again -/

theorem isUndefined_ofJson (j : Json) : (ofJson j).isUndefined = false := by
  cases j <;> rfl

/-- Members that were read are all present, so writing keeps them all. -/
theorem documentMembers_valueMembers (named : List (String × Json)) :
    documentMembers (valueMembers named) = named.map fun p => (p.1, (ofJson p.2).toJson) := by
  rw [documentMembers_eq_map, valueMembers_eq_map, List.filter_map, List.map_map]
  simp only [Function.comp_def, isUndefined_ofJson, Bool.not_false, List.filter_true]

theorem toJson_ofJson_number (x : Double) : (ofJson x.toJson).toJson = x.toJson := by
  cases hx : x.exactInteger? with
  | some n =>
    have hsize := (Double.exactInteger?_eq_some_iff.mp hx).2
    simp only [Double.toJson_of_exactInteger hx, ofJson, toJson,
      Double.toJson_of_exactInteger (Double.exactInteger?_ofInt hsize)]
  | none =>
    rw [Double.toJson_of_none hx]
    cases hfinite : x.isFinite with
    | true => simp [ofJson, toJson, Double.toJson_of_none hx, hfinite]
    | false => rfl

theorem toJson_ofJson_toJson {v : Value} (hv : v.WellFormed) :
    (ofJson v.toJson).toJson = v.toJson := by
  induction v using Value.induction with
  | number x => exact toJson_ofJson_number x
  | array items ih =>
    simp only [toJson, ofJson, valueItems_eq_map, documentItems_eq_map, List.map_map]
    exact congrArg Json.array
      (List.map_congr_left fun v hmem => ih v hmem (wellFormedItems_iff.mp hv v hmem))
  | object members ih =>
    obtain ⟨hdistinct, hmembers⟩ := hv
    have hsame : ∀ p ∈ documentMembers members, (ofJson p.2).toJson = p.2 := by
      intro p hp
      rw [documentMembers_eq_map] at hp
      obtain ⟨q, hq, rfl⟩ := List.mem_map.mp hp
      have hq := List.mem_of_mem_filter hq
      exact ih q hq (wellFormedMembers_iff.mp hmembers q hq)
    have hmap : (documentMembers members).map (fun p => (p.1, (ofJson p.2).toJson)) =
        documentMembers members := by
      refine (List.map_congr_left (g := id) fun p hp => ?_).trans (List.map_id _)
      rw [hsame p hp, id]
    simp only [toJson, ofJson, documentMembers_valueMembers]
    rw [← Entries.sortByName_map fun j => (ofJson j).toJson, hmap,
      Entries.sortByName_sortByName (distinct_documentMembers hdistinct)]
  | _ => rfl

/-! ## The document of the canonical form -/

theorem exactInteger?_zero (negative : Bool) :
    (Double.zero negative).exactInteger? = some 0 :=
  Double.exactInteger?_of_isZero rfl

theorem toJson_canonical {v : Value} (hv : v.WellFormed) : v.canonical.toJson = v.toJson := by
  induction v using Value.induction with
  | number x =>
    cases hx : x.isZero with
    | true =>
      simp only [canonical_number_of_isZero hx, toJson,
        Double.toJson_of_exactInteger (exactInteger?_zero false),
        Double.toJson_of_exactInteger (Double.exactInteger?_of_isZero hx)]
    | false => rw [canonical_number hx]
  | array items ih =>
    simp only [canonical_array, toJson, documentItems_eq_map, List.map_map]
    exact congrArg Json.array
      (List.map_congr_left fun v hmem => ih v hmem (wellFormedItems_iff.mp hv v hmem))
  | object members ih =>
    obtain ⟨hdistinct, hmembers⟩ := hv
    -- the members that are present are the same, but for their order
    have hperm : (documentMembers (Entries.sortByName
        (members.map fun p => (p.1, p.2.canonical)))).Perm (documentMembers members) := by
      simp only [documentMembers_eq_map]
      refine (((Entries.sortByName_perm _).filter _).map _).trans (.of_eq ?_)
      rw [List.filter_map, List.map_map]
      simp only [Function.comp_def, isUndefined_canonical]
      exact List.map_congr_left fun p hp => congrArg (p.1, ·)
        (ih p (List.mem_of_mem_filter hp)
          (wellFormedMembers_iff.mp hmembers p (List.mem_of_mem_filter hp)))
    simp only [canonical_object, toJson]
    refine congrArg Json.object ((Entries.sortByName_eq_iff ?_).mpr hperm)
    exact ((hperm.map Prod.fst).nodup_iff).mpr (distinct_documentMembers hdistinct)
  | _ => rfl

theorem display_canonical {v : Value} (hv : v.WellFormed) : v.canonical.display = v.display := by
  cases v with
  | number x =>
    cases hx : x.isZero with
    | true =>
      rw [canonical_number_of_isZero hx]
      simp only [display, Double.display, exactInteger?_zero, Double.exactInteger?_of_isZero hx]
    | false => rw [canonical_number hx]
  | array items =>
    have hdoc := toJson_canonical hv
    simp only [canonical_array] at hdoc ⊢
    simp only [display, hdoc]
  | object members =>
    have hdoc := toJson_canonical hv
    simp only [canonical_object] at hdoc ⊢
    simp only [display, hdoc]
  | _ => rfl

/-! ## Plain values -/

mutual

/-- The value holds no absent value, no date and no number that is not finite. -/
def Plain : Value → Prop
  | .undefined => False
  | .date _ => False
  | .number x => x.isFinite = true
  | .array items => PlainItems items
  | .object members => PlainMembers members
  | _ => True

/-- Every item is plain. -/
def PlainItems : List Value → Prop
  | [] => True
  | v :: rest => v.Plain ∧ PlainItems rest

/-- Every member is plain. -/
def PlainMembers : List (String × Value) → Prop
  | [] => True
  | (_, v) :: rest => v.Plain ∧ PlainMembers rest

end

theorem plainItems_iff (items : List Value) : PlainItems items ↔ ∀ v ∈ items, v.Plain := by
  induction items with
  | nil => simp [PlainItems]
  | cons v rest ih => simp [PlainItems, ih]

theorem plainMembers_iff (members : List (String × Value)) :
    PlainMembers members ↔ ∀ p ∈ members, p.2.Plain := by
  induction members with
  | nil => simp [PlainMembers]
  | cons p rest ih => simp only [PlainMembers, ih, List.forall_mem_cons]

theorem Plain.nanFree {v : Value} (h : v.Plain) : v.NaNFree := by
  induction v using Value.induction with
  | number x =>
    cases x with
    | nan => cases h
    | _ => rfl
  | array items ih =>
    exact (nanFreeItems_iff items).mpr fun v hv => ih v hv ((plainItems_iff items).mp h v hv)
  | object members ih =>
    exact (nanFreeMembers_iff members).mpr fun p hp =>
      ih p hp ((plainMembers_iff members).mp h p hp)
  | _ => trivial

theorem Plain.isUndefined {v : Value} (h : v.Plain) : v.isUndefined = false := by
  cases v with
  | undefined => cases h
  | _ => rfl

theorem ofJson_toJson_number {x : Double} (h : x.isFinite = true) :
    ofJson x.toJson = (number x).canonical := by
  cases hzero : x.isZero with
  | true =>
    have hofInt : Double.ofInt 0 = Double.zero false := by
      simp only [Double.ofInt_eq (n := 0) (by norm_num), Int.natAbs_zero, zero_mul]
      rfl
    rw [Double.toJson_of_exactInteger (Double.exactInteger?_of_isZero hzero),
      canonical_number_of_isZero hzero, ofJson, hofInt]
  | false =>
    rw [canonical_number hzero]
    cases hx : x.exactInteger? with
    | some n =>
      rw [Double.toJson_of_exactInteger hx, ofJson, Double.ofInt_of_exactInteger hx hzero]
    | none => rw [Double.toJson_of_none hx, if_pos h, ofJson]

/-- Reading the document of a plain value gives its canonical form. -/
theorem ofJson_toJson {v : Value} (h : v.Plain) : ofJson v.toJson = v.canonical := by
  induction v using Value.induction with
  | undefined | date => cases h
  | number x => exact ofJson_toJson_number h
  | array items ih =>
    simp only [toJson, ofJson, canonical_array, valueItems_eq_map, documentItems_eq_map,
      List.map_map]
    exact congrArg array
      (List.map_congr_left fun v hv => ih v hv ((plainItems_iff items).mp h v hv))
  | object members ih =>
    have hplain := (plainMembers_iff members).mp h
    have hpresent : members.filter (fun p => !p.2.isUndefined) = members :=
      List.filter_eq_self.mpr fun p hp => by rw [(hplain p hp).isUndefined]; rfl
    simp only [toJson, ofJson, canonical_object, valueMembers_eq_map, documentMembers_eq_map,
      hpresent]
    rw [← Entries.sortByName_map, List.map_map]
    exact congrArg (fun ms => object (Entries.sortByName ms))
      (List.map_congr_left fun p hp => congrArg (p.1, ·) (ih p hp (hplain p hp)))
  | _ => rfl

/-- **Equal values print alike**: whatever the order of their members and the signs of their
zeros, they have the same document and the same text.  Plain values have the same document
only when they are equal. -/
theorem equal_values_print_alike {v w : Value} (hv : v.WellFormed) (hw : w.WellFormed) :
    (v.equals w = true → v.toJson = w.toJson ∧ v.display = w.display) ∧
    (v.Plain → w.Plain → v.toJson = w.toJson → v.equals w = true) := by
  refine ⟨fun h => ?_, fun hplain hplain' hdoc => ?_⟩
  · have hform := ((equals_iff hv hw).mp h).2
    constructor
    · rw [← toJson_canonical hv, hform, toJson_canonical hw]
    · rw [← display_canonical hv, hform, display_canonical hw]
  · refine (equals_iff hv hw).mpr ⟨hplain.nanFree, ?_⟩
    rw [← ofJson_toJson hplain, hdoc, ofJson_toJson hplain']

/-- Members in another order and a zero of the other sign, beside an absent member. -/
theorem equal_values_print_alike_of_reordered :
    let a := ("a", number (Double.zero true))
    let b := ("b", number (Double.zero false))
    let v := object [b, a, ("c", undefined)]
    let w := object [("c", undefined), a, b]
    v.WellFormed ∧ w.WellFormed ∧ v.equals w = true ∧ v.display = w.display ∧
    (object [b, a]).Plain ∧ (object [b, a]).equals (object [a, b]) = true := by
  intro a b v w
  have hv : v.WellFormed := by
    simp [v, a, b, WellFormed, WellFormedMembers, Entries.Distinct, Entries.names]
  have hw : w.WellFormed := by
    simp [w, a, b, WellFormed, WellFormedMembers, Entries.Distinct, Entries.names]
  have hequal : v.equals w = true := by decide
  have hba : (object [b, a]).WellFormed := by
    simp [a, b, WellFormed, WellFormedMembers, Entries.Distinct, Entries.names]
  have hab : (object [a, b]).WellFormed := by
    simp [a, b, WellFormed, WellFormedMembers, Entries.Distinct, Entries.names]
  have hplain : (object [b, a]).Plain := by
    simp [a, b, Plain, PlainMembers, Double.isFinite, Double.zero]
  have hplain' : (object [a, b]).Plain := by
    simp [a, b, Plain, PlainMembers, Double.isFinite, Double.zero]
  have hdoc : (object [b, a]).toJson = (object [a, b]).toJson := rfl
  exact ⟨hv, hw, hequal, ((equal_values_print_alike hv hw).1 hequal).2, hplain,
    (equal_values_print_alike hba hab).2 hplain hplain' hdoc⟩

/-- **Writing a document is a projection, and reading one is its section.**  The document of
what was read from a document is that document; and a value that is plain is equal to what
is read from its document. -/
theorem document_projection {v : Value} (hv : v.WellFormed) :
    (ofJson v.toJson).toJson = v.toJson ∧ (v.Plain → (ofJson v.toJson).equals v = true) := by
  refine ⟨toJson_ofJson_toJson hv, fun hplain => ?_⟩
  rw [ofJson_toJson hplain]
  exact canonical_equals hv hplain.nanFree

/-- Members out of order, one of them a negative zero. -/
theorem document_projection_of_reordered :
    let v := object [("b", .array [number (Double.zero true), .null]), ("a", .text "x")]
    v.WellFormed ∧ v.Plain ∧ (ofJson v.toJson).equals v = true := by
  intro v
  have hv : v.WellFormed := by
    simp [v, WellFormed, WellFormedMembers, WellFormedItems, Entries.Distinct, Entries.names]
  have hplain : v.Plain := by
    simp [v, Plain, PlainMembers, PlainItems, Double.isFinite, Double.zero]
  exact ⟨hv, hplain, (document_projection hv).2 hplain⟩

end Value

end SchemaEngine
