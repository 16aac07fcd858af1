import SchemaEngine.Proofs.CheckTypes
import SchemaEngine.Proofs.Duplicates
import SchemaEngine.Proofs.Spelling

/-!
# Uniqueness

Uniqueness rejects a sequence when there is a group of duplicates.  The groups are those of
the texts of keys that stand at two places or more (`Check.mem_duplicates`), so there is none
when no two keys have the same text (`Check.duplicates_eq_nil_iff`).

The text of a key, taken after the sign of zeros was dropped, says almost as much as the key
(`Value.spelled_uniformZeros_iff`).  It tells more than equality, which does not see the order
of members: a sequence that holds one object twice, with its members in two orders, passes.
And it tells less, since a leap second before the end of its minute is written like the second
after it: two such dates do not pass, though they are not equal.  There is no other difference
(`Schema.uniqueBy_accepts_iff`), so where all members stand in the order of their names and no
date is such a leap second, uniqueness is the absence of equal keys.
-/

namespace SchemaEngine

namespace Check

/-- There is no group when no two keys have the same text, the sign of zeros aside. -/
theorem duplicates_eq_nil_iff (key : Conversion) (items : List Value) :
    duplicates key items = [] ↔
      items.Pairwise fun v w => (key v).uniformZeros.spelled ≠ (key w).uniformZeros.spelled := by
  rw [← List.pairwise_map, ← keysOf, ← List.nodup_iff_pairwise_ne, List.nodup_iff_count]
  simp only [List.eq_nil_iff_forall_not_mem, mem_duplicates]
  constructor
  · intro hnone k
    rw [← List.length_idxsOf]
    exact Nat.not_lt.mp fun hlength => hnone _ ⟨hlength, k, rfl⟩
  · rintro honce g ⟨hlength, k, rfl⟩
    rw [List.length_idxsOf] at hlength
    exact absurd (honce k) (Nat.not_le.mpr hlength)

end Check

open Check (uniqueBy)

/-- **Uniqueness goes by equality, by the order of members and by how dates are written.**  A
sequence that reaches uniqueness passes when no two of its keys are equal, once their dates have
settled, with their members in the same order.  So it never passes with two keys that are equal
with their members in the same order.  Where all keys have their members in the order of their
names and their dates are settled, it passes when no two of its keys are equal. -/
theorem Schema.uniqueBy_accepts_iff {s : Schema} {v : Value} {o : Options} {d d' : Draws}
    {items : List Value} (reaches : s.safeParse o v d = (.ok (.array items), d'))
    {key : Conversion} (wellFormed : ∀ x ∈ items, (key x).WellFormed)
    (nanFree : ∀ x ∈ items, (key x).NaNFree) :
    let accepted := (s.attach (uniqueBy key)).safeParse o v d = (.ok (.array items), d')
    (accepted ↔ items.Pairwise fun x y =>
      (key x).settled.equals (key y).settled = true → (key x).outline ≠ (key y).outline) ∧
    (accepted → items.Pairwise fun x y =>
      (key x).equals (key y) = true → (key x).outline ≠ (key y).outline) ∧
    ((∀ x ∈ items, (key x).byName = key x ∧ (key x).settled = key x) →
      (accepted ↔ items.Pairwise fun x y => (key x).equals (key y) = false)) := by
  intro accepted
  have haccepted : accepted ↔ Check.duplicates key items = [] :=
    (accepts_refine_iff reaches _ _ _).trans List.isEmpty_iff
  have hexact : accepted ↔ items.Pairwise fun x y =>
      (key x).settled.equals (key y).settled = true → (key x).outline ≠ (key y).outline := by
    rw [haccepted, Check.duplicates_eq_nil_iff]
    refine List.Pairwise.iff_of_mem fun {x y} hx hy => ?_
    rw [Ne, Value.spelled_uniformZeros_iff (wellFormed x hx) (wellFormed y hy) (nanFree x hx),
      not_and]
  refine ⟨hexact, fun h => ?_, fun sorted => hexact.trans ?_⟩
  · refine (hexact.mp h).imp_of_mem fun {x y} hx hy hxy hequal => hxy ?_
    exact Value.equals_settled (wellFormed x hx) (wellFormed y hy) hequal
  · refine List.Pairwise.iff_of_mem fun {x y} hx hy => ?_
    obtain ⟨hsorted, hsettled⟩ := sorted x hx
    obtain ⟨hsorted', hsettled'⟩ := sorted y hy
    have houtline := Value.outline_of_equals (wellFormed x hx) (wellFormed y hy) hsorted hsorted'
    rw [hsettled, hsettled']
    cases hequal : (key x).equals (key y) with
    | false => simp
    | true => simp [houtline hequal]

/-- Two zeros with different signs are equal, so they do not pass. -/
theorem Schema.uniqueBy_accepts_iff_of_zeros :
    let s := array (leaf .any {}) {}
    let zeros := [Value.number (Double.zero false), .number (Double.zero true)]
    s.safeParse {} (.array zeros) [] = (.ok (.array zeros), []) ∧
    (∀ v ∈ zeros, v.WellFormed) ∧ (∀ v ∈ zeros, v.NaNFree) ∧ (∀ v ∈ zeros, v.byName = v ∧ v.settled = v) ∧
    (s.attach Check.unique).safeParse {} (.array zeros) [] ≠ (.ok (.array zeros), []) := by
  intro s zeros
  have reaches : s.safeParse {} (.array zeros) [] = (.ok (.array zeros), []) := rfl
  have wellFormed : ∀ v ∈ zeros, v.WellFormed := by simp [zeros, Value.WellFormed]
  have nanFree : ∀ v ∈ zeros, v.NaNFree := by simp [zeros, Value.NaNFree, Double.zero, Double.isNaN]
  have sorted : ∀ v ∈ zeros, v.byName = v ∧ v.settled = v := by
    simp [zeros, Value.byName, Value.settled]
  refine ⟨reaches, wellFormed, nanFree, sorted, fun accepted => ?_⟩
  have hpairwise := ((uniqueBy_accepts_iff reaches wellFormed nanFree).2.2 sorted).mp accepted
  have hunequal := List.rel_of_pairwise_cons hpairwise (List.mem_singleton_self _)
  exact absurd hunequal (by decide)

/-- An object passes beside itself with its members in another order, though the two are
equal. -/
theorem Schema.reordered_pass_unique :
    let s := array (leaf .any {}) {}
    let a := ("a", Value.null)
    let b := ("b", Value.bool true)
    let items := [Value.object [a, b], .object [b, a]]
    (∀ v ∈ items, v.WellFormed) ∧ (∀ v ∈ items, v.NaNFree) ∧
    (Value.object [a, b]).equals (.object [b, a]) = true ∧
    s.safeParse {} (.array items) [] = (.ok (.array items), []) ∧
    (s.attach Check.unique).safeParse {} (.array items) [] = (.ok (.array items), []) := by
  intro s a b items
  have wellFormed : ∀ v ∈ items, v.WellFormed := by
    simp [items, a, b, Value.WellFormed, Value.WellFormedMembers, Entries.Distinct, Entries.names]
  have nanFree : ∀ v ∈ items, v.NaNFree := by
    simp [items, a, b, Value.NaNFree, Value.NaNFreeMembers]
  exact ⟨wellFormed, nanFree, by decide, rfl, rfl⟩

/-- A leap second in the middle of a minute: the two dates are not equal, and still they are
duplicates. -/
example :
    let leap := Value.date ⟨0, 1500000000⟩
    let next := Value.date ⟨1, 500000000⟩
    leap.equals next = false ∧ Check.duplicates (fun v => v) [leap, next] = [[0, 1]] := by
  decide

/-- At the end of a minute they can be told apart. -/
example :
    let leap := Value.date ⟨59, 1500000000⟩
    let next := Value.date ⟨60, 500000000⟩
    Check.duplicates (fun v => v) [leap, next] = [] := by
  decide

end SchemaEngine
