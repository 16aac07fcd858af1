import SchemaEngine.Proofs.Dates
import SchemaEngine.Proofs.Equality
import SchemaEngine.Proofs.Listings
import SchemaEngine.Proofs.NumberTexts
import SchemaEngine.Proofs.Quotations

/-!
# What the text of a value tells

A value spelled out shows its kind first, and the text inside tells the value: numbers,
quoted texts and lists of such can be read off what they begin.  Only of a leap second the
text does not tell all, since before the end of its minute it is written like the second
after it.  So two values are spelled the same when they are the same once their dates have
settled (`Value.spelled_eq_iff`).

Settled or not, a value has the same members in the same order, with the same signs of zeros.
-/

namespace SchemaEngine
namespace Value

open Text (Told Opens NoDigitNext noDigitNext_cons)

mutual

/-- The value with every date, at any depth, where its text puts it. -/
def settled : Value → Value
  | .date t => .date t.settled
  | .array items => .array (settledItems items)
  | .object members => .object (settledMembers members)
  | v => v

/-- Items with every date where its text puts it. -/
def settledItems : List Value → List Value
  | [] => []
  | v :: rest => v.settled :: settledItems rest

/-- Members with every date where its text puts it. -/
def settledMembers : List (String × Value) → List (String × Value)
  | [] => []
  | (name, v) :: rest => (name, v.settled) :: settledMembers rest

end

/-- The text of a member. -/
def spelledMember (p : String × Value) : String := Text.quoted p.1 ++ ": " ++ p.2.spelled

section Lists
variable (items : List Value) (members : List (String × Value))

theorem settledItems_eq_map : settledItems items = items.map settled := by
  induction items with
  | nil => rfl
  | cons v rest ih => simp only [settledItems, ih, List.map_cons]

theorem settledMembers_eq_map :
    settledMembers members = members.map fun p => (p.1, p.2.settled) := by
  induction members with
  | nil => rfl
  | cons p rest ih => simp only [settledMembers, ih, List.map_cons]

theorem spelledItems_eq_map : spelledItems items = items.map spelled := by
  induction items with
  | nil => rfl
  | cons v rest ih => simp only [spelledItems, ih, List.map_cons]

theorem spelledMembers_eq_map : spelledMembers members = members.map spelledMember := by
  induction members with
  | nil => rfl
  | cons p rest ih => simp only [spelledMembers, spelledMember, ih, List.map_cons]

end Lists

/-! ## Settled values -/

theorem wellFormed_settled {v : Value} (h : v.WellFormed) : v.settled.WellFormed := by
  induction v using Value.induction with
  | array items ih =>
    simp only [settled, WellFormed, settledItems_eq_map, wellFormedItems_iff,
      List.forall_mem_map]
    exact fun v hv => ih v hv (wellFormedItems_iff.mp h v hv)
  | object members ih =>
    obtain ⟨hdistinct, hmembers⟩ := h
    simp only [settled, WellFormed, settledMembers_eq_map, wellFormedMembers_iff,
      List.forall_mem_map]
    exact ⟨Entries.distinct_map settled hdistinct,
      fun p hp => ih p hp (wellFormedMembers_iff.mp hmembers p hp)⟩
  | _ => exact h

theorem nanFree_settled {v : Value} (h : v.NaNFree) : v.settled.NaNFree := by
  induction v using Value.induction with
  | array items ih =>
    simp only [settled, NaNFree, settledItems_eq_map, nanFreeItems_iff, List.forall_mem_map]
    exact fun v hv => ih v hv ((nanFreeItems_iff items).mp h v hv)
  | object members ih =>
    simp only [settled, NaNFree, settledMembers_eq_map, nanFreeMembers_iff, List.forall_mem_map]
    exact fun p hp => ih p hp ((nanFreeMembers_iff members).mp h p hp)
  | _ => exact h

theorem outline_settled (v : Value) : v.settled.outline = v.outline := by
  induction v using Value.induction with
  | array items ih =>
    simp only [settled, outline, settledItems_eq_map, outlineItems_eq_map, List.map_map]
    exact congrArg array (List.map_congr_left ih)
  | object members ih =>
    simp only [settled, outline, settledMembers_eq_map, outlineMembers_eq_map, List.map_map]
    exact congrArg object (List.map_congr_left fun p hp => congrArg (p.1, ·) (ih p hp))
  | _ => rfl

theorem uniformZeros_settled (v : Value) : v.settled.uniformZeros = v.uniformZeros.settled := by
  induction v using Value.induction with
  | number x => cases hx : x.isZero <;> simp [settled, uniformZeros, hx]
  | array items ih =>
    simp only [settled, uniformZeros, settledItems_eq_map, uniformItems_eq_map, List.map_map]
    exact congrArg array (List.map_congr_left ih)
  | object members ih =>
    simp only [settled, uniformZeros, settledMembers_eq_map, uniformMembers_eq_map, List.map_map]
    exact congrArg object (List.map_congr_left fun p hp => congrArg (p.1, ·) (ih p hp))
  | _ => rfl

theorem byName_settled (v : Value) : v.settled.byName = v.byName.settled := by
  induction v using Value.induction with
  | array items ih =>
    simp only [settled, byName, settledItems_eq_map, byNameItems_eq_map, List.map_map]
    exact congrArg array (List.map_congr_left ih)
  | object members ih =>
    have hmembers : (members.map fun p => (p.1, p.2.settled)).map
        (fun p => (p.1, p.2.byName)) =
          (members.map fun p => (p.1, p.2.byName)).map fun p => (p.1, p.2.settled) := by
      simp only [List.map_map]
      exact List.map_congr_left fun p hp => congrArg (p.1, ·) (ih p hp)
    simp only [settled, byName, settledMembers_eq_map, byNameMembers_eq_map, hmembers,
      Entries.sortByName_map]
  | _ => rfl

/-- Equal values are equal once their dates have settled. -/
theorem equals_settled {v w : Value} (hv : v.WellFormed) (hw : w.WellFormed)
    (h : v.equals w = true) : v.settled.equals w.settled = true := by
  obtain ⟨hnan, hform⟩ := (equals_iff hv hw).mp h
  refine (equals_iff (wellFormed_settled hv) (wellFormed_settled hw)).mpr
    ⟨nanFree_settled hnan, ?_⟩
  have hsettled : ∀ u : Value, u.settled.canonical = u.canonical.settled := fun u => by
    rw [canonical, canonical, byName_settled, uniformZeros_settled]
  rw [hsettled, hsettled, hform]

theorem spelled_settled (v : Value) : v.settled.spelled = v.spelled := by
  induction v using Value.induction with
  | date t => simp only [settled, spelled, Instant.spelled_settled]
  | array items ih =>
    have hitems : items.map (spelled ∘ settled) = items.map spelled := List.map_congr_left ih
    simp only [settled, spelled, settledItems_eq_map, spelledItems_eq_map, List.map_map, hitems]
  | object members ih =>
    have hmembers : (members.map fun p => (p.1, p.2.settled)).map spelledMember =
        members.map spelledMember := by
      rw [List.map_map]
      exact List.map_congr_left fun p hp => by simp only [Function.comp, spelledMember, ih p hp]
    simp only [settled, spelled, settledMembers_eq_map, spelledMembers_eq_map, hmembers]
  | _ => rfl

/-! ## Reading a value off its text -/

/-- The type of the value that a text begins with. -/
def typeNameOf : List Char → String
  | 'N' :: 'u' :: 'l' :: _ => "null"
  | 'N' :: _ => "number"
  | 'B' :: _ => "boolean"
  | 'S' :: _ => "string"
  | 'D' :: _ => "date"
  | 'A' :: _ => "array"
  | 'O' :: _ => "object"
  | _ => "undefined"

theorem typeNameOf_spelled (v : Value) (x : List Char) :
    typeNameOf (v.spelled.toList ++ x) = v.typeName := by
  cases v <;> simp [spelled, typeName, typeNameOf]

theorem typeName_of_spelled {v w : Value} {x y : List Char}
    (h : v.spelled.toList ++ x = w.spelled.toList ++ y) : v.typeName = w.typeName := by
  rw [← typeNameOf_spelled v x, h, typeNameOf_spelled]

theorem not_mem_toString : ∀ b : Bool, ')' ∉ (toString b).toList := by decide

theorem toString_inj : ∀ b c : Bool, toString b = toString c → b = c := by decide

theorem toList_array (items : List Value) (x : List Char) :
    (array items).spelled.toList ++ x =
      "Array(".toList ++ (("[" ++ Text.joined ", " (items.map spelled) ++ "]").toList ++
        ')' :: x) := by
  simp [spelled, spelledItems_eq_map]

theorem toList_object (members : List (String × Value)) (x : List Char) :
    (object members).spelled.toList ++ x =
      "Object(".toList ++ (("\x7b" ++ Text.joined ", " (members.map spelledMember) ++
        "\x7d").toList ++ ')' :: x) := by
  simp [spelled, spelledMembers_eq_map]

theorem told_items {items : List Value} {R : Value → Value → Prop}
    (h : ∀ v ∈ items, Told spelled R v) :
    Told (fun items => "[" ++ Text.joined ", " (items.map spelled) ++ "]") (List.Forall₂ R)
      items := by
  have opens : Opens ']' spelled := fun v => by cases v <;> simp [spelled]
  exact Told.list (fun _ => Text.toList_brackets _) opens (by decide) rfl h

/-- A name ends at the second quotation mark, so the value is told from what follows it. -/
theorem told_member {p : String × Value} (h : Told spelled (fun v w => v.settled = w.settled) p.2) :
    Told spelledMember (fun p q => (p.1, p.2.settled) = (q.1, q.2.settled)) p := by
  intro q x y hx hy hpq
  have hpq : (Text.quoted p.1).toList ++ (": ".toList ++ (p.2.spelled.toList ++ x)) =
      (Text.quoted q.1).toList ++ (": ".toList ++ (q.2.spelled.toList ++ y)) := by
    simpa [spelledMember] using hpq
  obtain ⟨hname, hrest⟩ := Text.quoted_append_inj hpq
  obtain ⟨hvalue, hxy⟩ := h q.2 x y hx hy (List.append_cancel_left hrest)
  exact ⟨Prod.ext hname hvalue, hxy⟩

theorem told_members {members : List (String × Value)}
    {R : String × Value → String × Value → Prop} (h : ∀ p ∈ members, Told spelledMember R p) :
    Told (fun members => "\x7b" ++ Text.joined ", " (members.map spelledMember) ++ "\x7d")
      (List.Forall₂ R) members := by
  have opens : Opens '\x7d' spelledMember := fun p => by simp [spelledMember, Text.quoted]
  have hlist : ∀ (members : List (String × Value)) (x : List Char),
      ("\x7b" ++ Text.joined ", " (members.map spelledMember) ++ "\x7d").toList ++ x =
        ['\x7b'] ++ ((Text.joined ", " (members.map spelledMember)).toList ++ '\x7d' :: x) :=
    fun _ _ => by simp
  exact Told.list hlist opens (by decide) rfl h

theorem map_eq_map_iff {α β : Type} {f : α → β} {xs ys : List α} :
    xs.map f = ys.map f ↔ List.Forall₂ (fun x y => f x = f y) xs ys := by
  rw [← List.forall₂_eq_eq_eq, List.forall₂_map_left_iff, List.forall₂_map_right_iff]

/-- **Of a text that begins with a value, the value can be told**, up to where its dates
settle, and where it ends. -/
theorem told_spelled (v : Value) : Told spelled (fun v w => v.settled = w.settled) v := by
  induction v using Value.induction with
  | undefined =>
    intro w x y _ _ h
    cases w with
    | undefined => exact ⟨rfl, List.append_cancel_left h⟩
    | _ => exact absurd (typeName_of_spelled h) (by simp [typeName])
  | null =>
    intro w x y _ _ h
    cases w with
    | null => exact ⟨rfl, List.append_cancel_left h⟩
    | _ => exact absurd (typeName_of_spelled h) (by simp [typeName])
  | bool b =>
    intro w x y _ _ h
    cases w with
    | bool c =>
      have h : (toString b).toList ++ ')' :: x = (toString c).toList ++ ')' :: y := by
        simpa [spelled] using h
      obtain ⟨hbool, hxy⟩ := append_mark_inj (not_mem_toString b) (not_mem_toString c) h
      exact ⟨by rw [toString_inj b c (String.toList_inj.mp hbool)], hxy⟩
    | _ => exact absurd (typeName_of_spelled h) (by simp [typeName])
  | number n =>
    intro w x y _ _ h
    cases w with
    | number m =>
      have h : n.spelled.toList ++ ')' :: x = m.spelled.toList ++ ')' :: y := by
        simpa [spelled] using h
      obtain ⟨hnumber, hxy⟩ := append_mark_inj n.not_mem_spelled m.not_mem_spelled h
      exact ⟨by rw [Double.spelled_inj.mp (String.toList_inj.mp hnumber)], hxy⟩
    | _ => exact absurd (typeName_of_spelled h) (by simp [typeName])
  | text s =>
    intro w x y _ _ h
    cases w with
    | text t =>
      have h : (Text.quoted s).toList ++ ')' :: x = (Text.quoted t).toList ++ ')' :: y := by
        simpa [spelled] using h
      obtain ⟨htext, hrest⟩ := Text.quoted_append_inj h
      exact ⟨by rw [htext], (List.cons.inj hrest).2⟩
    | _ => exact absurd (typeName_of_spelled h) (by simp [typeName])
  | date t =>
    intro w x y _ _ h
    cases w with
    | date t' =>
      have h : t.spelled.toList ++ ')' :: x = t'.spelled.toList ++ ')' :: y := by
        simpa [spelled] using h
      obtain ⟨hdate, hrest⟩ := Instant.settled_of_spelled h
      exact ⟨congrArg date hdate, (List.cons.inj hrest).2⟩
    | _ => exact absurd (typeName_of_spelled h) (by simp [typeName])
  | array items ih =>
    intro w x y _ _ h
    cases w with
    | array others =>
      rw [toList_array, toList_array] at h
      obtain ⟨hitems, hrest⟩ := told_items ih others _ _ (noDigitNext_cons rfl x)
        (noDigitNext_cons rfl y) (List.append_cancel_left h)
      refine ⟨?_, (List.cons.inj hrest).2⟩
      simp only [settled, settledItems_eq_map, map_eq_map_iff.mpr hitems]
    | _ => exact absurd (typeName_of_spelled h) (by simp [typeName])
  | object members ih =>
    intro w x y _ _ h
    cases w with
    | object others =>
      rw [toList_object, toList_object] at h
      obtain ⟨hmembers, hrest⟩ := told_members (fun p hp => told_member (ih p hp)) others _ _
        (noDigitNext_cons rfl x) (noDigitNext_cons rfl y) (List.append_cancel_left h)
      refine ⟨?_, (List.cons.inj hrest).2⟩
      simp only [settled, settledMembers_eq_map, map_eq_map_iff.mpr hmembers]
    | _ => exact absurd (typeName_of_spelled h) (by simp [typeName])

/-- **Values are spelled the same when they are the same once their dates have settled.** -/
theorem spelled_eq_iff {v w : Value} : v.spelled = w.spelled ↔ v.settled = w.settled := by
  constructor
  · exact v.told_spelled.of_eq
  · intro h
    rw [← spelled_settled v, h, spelled_settled]

/-- A text is not taken for the number that it looks like. -/
example : (Value.array [.text "1", .number (Double.ofInt 1)]).spelled =
    "Array([String(\"1\"), Number(1.0)])" := by
  decide +kernel

/-- Values are spelled the same, the sign of zeros aside, when they are equal once their dates
have settled and their members stand in the same order. -/
theorem spelled_uniformZeros_iff {v w : Value} (hv : v.WellFormed) (hw : w.WellFormed)
    (hnan : v.NaNFree) :
    v.uniformZeros.spelled = w.uniformZeros.spelled ↔
      v.settled.equals w.settled = true ∧ v.outline = w.outline := by
  rw [spelled_eq_iff, ← uniformZeros_settled, ← uniformZeros_settled,
    uniformZeros_eq_iff (wellFormed_settled hv) (wellFormed_settled hw) (nanFree_settled hnan),
    outline_settled, outline_settled]

end Value
end SchemaEngine
