import SchemaEngine.Number.Decimal
import SchemaEngine.Proofs.Rounding

/-!
# The shortest decimal reads back

`Double.shortest` takes the first of twenty-four decimal grids on which a neighbour of the
number reads back as the number.  That there is such a grid is a matter of its gaps: what lies
less than a quarter of the gap between doubles below a double is rounded to it
(`rounded_eq_of_near`), and the gaps of the last grid are that small (`fine_finest`), because
ten binary digits hold a little more than three decimal ones, and ten decimal digits a little
more than thirty-three binary ones.

What a decimal reads as depends on its value alone (`ofDecimal_shift`), and its sign is the
sign of the double (`ofDecimal_neg`).
-/

namespace SchemaEngine

/-! ## Powers of ten and of two -/

theorem ten_pow_le (n : Nat) : 10 ^ n ≤ 2 ^ ((10 * n + 2) / 3) := by
  refine (Nat.pow_le_pow_iff_left (n := 3) (by omega)).mp ?_
  calc (10 ^ n) ^ 3 = (10 ^ 3) ^ n := by rw [← pow_mul, mul_comm, pow_mul]
    _ ≤ (2 ^ 10) ^ n := Nat.pow_le_pow_left (by norm_num) n
    _ = 2 ^ (10 * n) := (pow_mul ..).symm
    _ ≤ 2 ^ ((10 * n + 2) / 3 * 3) := Nat.pow_le_pow_right two_pos (by omega)
    _ = (2 ^ ((10 * n + 2) / 3)) ^ 3 := pow_mul ..

theorem two_pow_le (n : Nat) : 2 ^ (33 * n / 10) ≤ 10 ^ n := by
  refine (Nat.pow_le_pow_iff_left (n := 10) (by omega)).mp ?_
  calc (2 ^ (33 * n / 10)) ^ 10 = 2 ^ (33 * n / 10 * 10) := (pow_mul ..).symm
    _ ≤ 2 ^ (33 * n) := Nat.pow_le_pow_right two_pos (Nat.div_mul_le_self ..)
    _ = (2 ^ 33) ^ n := pow_mul ..
    _ ≤ (10 ^ 10) ^ n := Nat.pow_le_pow_left (by norm_num) n
    _ = (10 ^ n) ^ 10 := by rw [← pow_mul, mul_comm, pow_mul]

namespace Double

attribute [local irreducible] one bound

/-! ## What lies close below a double -/

section Near
variable {num den u : Nat}

theorem le_two_mul_nearestMultiple {step : Nat} (num : Nat) (hpos : 0 < den * step) :
    2 * num ≤ 2 * (nearestMultiple num den step * den) + den * step := by
  have hnum := Nat.div_add_mod num (den * step)
  have hlt := Nat.mod_lt num hpos
  have hmul : ∀ k, k * step * den = den * step * k := fun k => by ring
  rcases nearestMultiple_cases num den step with ⟨hn, hhalf⟩ | ⟨hn, -⟩ <;> rw [hn, hmul]
  · omega
  · rw [mul_add_one]
    omega

/-- Close below a double the gaps are at least half as wide as above it. -/
theorem spacing_le_two_mul (hden : 0 < den)
    (near : 4 * (u * den) < 4 * num + den * spacing u) :
    spacing u ≤ 2 * spacing (num / den) := by
  rcases Nat.lt_or_ge u (2 ^ 52) with hsmall | hlarge
  · have hlog : u.log2 ≤ 52 := log2_le_of_lt (hsmall.trans (by norm_num))
    calc spacing u = 1 := by rw [spacing, Nat.sub_eq_zero_of_le hlog, Nat.pow_eq, pow_zero]
      _ ≤ 2 * spacing (num / den) := Nat.mul_pos two_pos (spacing_pos _)
  · have hgap : spacing u * den * 2 ^ 52 ≤ u * den := by
      rw [mul_right_comm]
      exact Nat.mul_le_mul_right den (spacing_mul_le hlarge)
    have hden' : 2 ^ 52 * den ≤ u * den := Nat.mul_le_mul_right den hlarge
    -- more than half of the double is left
    have hhalf : (u + 1) / 2 * den ≤ num := by
      have hdouble : 2 * ((u + 1) / 2) * den ≤ (u + 1) * den :=
        Nat.mul_le_mul_right den (by omega)
      rw [mul_assoc, add_one_mul] at hdouble
      rw [mul_comm den] at near
      omega
    have hquot : (u + 1) / 2 ≤ num / den := (Nat.le_div_iff_mul_le hden).mpr hhalf
    have hlog : u.log2 ≤ (num / den).log2 + 1 := by
      refine log2_le_of_lt ?_
      have := Nat.lt_log2_self (n := num / den)
      rw [pow_succ]
      omega
    calc spacing u ≤ 2 ^ ((num / den).log2 - 52 + 1) := Nat.pow_le_pow_right two_pos (by omega)
      _ = 2 * spacing (num / den) := pow_succ' ..

/-- A quotient less than a quarter of a gap below a double is rounded to it. -/
theorem rounded_eq_of_near (hden : 0 < den) (hu : Representable u) (hle : num ≤ u * den)
    (near : 4 * (u * den) < 4 * num + den * spacing u) : rounded num den = u := by
  refine (rounded_le hden hu.spacing_dvd hle).eq_of_not_lt fun hlt => ?_
  have hstep := spacing_pos (num / den)
  have hgap := Nat.mul_le_mul_left den (spacing_le_two_mul hden near)
  have herror := le_two_mul_nearestMultiple num (Nat.mul_pos hden hstep)
  -- both are multiples of the gap at the quotient, so they lie a gap apart
  have hdvd : spacing (num / den) ∣ u :=
    (spacing_dvd_spacing (Nat.div_le_of_le_mul (by linarith))).trans hu.spacing_dvd
  obtain ⟨k, hk⟩ := Nat.dvd_sub hdvd (dvd_nearestMultiple num den (spacing (num / den)))
  have hapart : rounded num den + spacing (num / den) ≤ u := by
    have hkpos : k ≠ 0 := by
      rintro rfl
      simp only [rounded, mul_zero] at hlt hk
      omega
    have := Nat.le_mul_of_pos_right (spacing (num / den)) (Nat.pos_of_ne_zero hkpos)
    simp only [rounded] at hlt ⊢
    omega
  have hapart := Nat.mul_le_mul_right den hapart
  rw [add_mul, mul_comm (spacing _) den] at hapart
  simp only [rounded] at hapart
  linarith

end Near

/-! ## What a decimal reads as -/

theorem rounded_mul_right {num den k : Nat} (hk : 0 < k) :
    rounded (num * k) (den * k) = rounded num den := by
  have hstep : ∀ step, den * k * step = den * step * k := fun step => mul_right_comm ..
  simp only [rounded, nearestMultiple, Nat.mul_div_mul_right _ _ hk, hstep, Nat.mul_mod_mul_right,
    ← mul_assoc 2, Nat.mul_lt_mul_right hk]

/-- Rounding sees the quotient alone. -/
theorem ofRatio_congr {a b c d : Nat} (negative : Bool) (hb : 0 < b) (hd : 0 < d)
    (h : a * d = c * b) : ofRatio negative a b = ofRatio negative c d := by
  have hsame : rounded a b = rounded c d := by
    rw [← rounded_mul_right hd, h, mul_comm b d, rounded_mul_right hb]
  exact congrArg (ofUnits negative) hsame

/-- A decimal of moderate size as a quotient. -/
theorem ofDecimal_eq {digits : Nat} {e : Int} (negative : Bool) (hdigits : digits ≠ 0)
    (hlow : -400 ≤ e) (hhigh : e ≤ 400) :
    ofDecimal negative digits e =
      ofRatio negative (digits * 10 ^ e.toNat * one) (10 ^ (-e).toNat) := by
  have hneg : ¬ 400 < e := by omega
  have hneg' : ¬ 3 * e + digits.log2 < -1200 := by omega
  simp only [ofDecimal, if_neg hdigits, if_neg hneg, if_neg hneg', Nat.pow_eq]
  cases e with
  | ofNat n => simp
  | negSucc n => simp

/-- Zeros behind the digits do not change what a decimal reads as. -/
theorem ofDecimal_shift {digits k : Nat} {e : Int} (negative : Bool) (hlow : -400 ≤ e - k)
    (hhigh : e ≤ 400) :
    ofDecimal negative (digits * 10 ^ k) (e - k) = ofDecimal negative digits e := by
  rcases Nat.eq_zero_or_pos digits with rfl | hdigits
  · simp [ofDecimal]
  · have hpow : 0 < 10 ^ k := Nat.pow_pos (by norm_num)
    rw [ofDecimal_eq negative (Nat.mul_pos hdigits hpow).ne' hlow (by omega),
      ofDecimal_eq negative hdigits.ne' (by omega) hhigh]
    refine ofRatio_congr negative (Nat.pow_pos (by norm_num)) (Nat.pow_pos (by norm_num)) ?_
    have hexponents : k + (e - k).toNat + (-e).toNat = e.toNat + (-(e - k)).toNat := by omega
    calc digits * 10 ^ k * 10 ^ (e - k).toNat * one * 10 ^ (-e).toNat
        = digits * one * 10 ^ (k + (e - k).toNat + (-e).toNat) := by rw [pow_add, pow_add]; ring
      _ = digits * 10 ^ e.toNat * one * 10 ^ (-(e - k)).toNat := by
        rw [hexponents, pow_add]; ring

/-- The sign of a decimal is that of the double. -/
theorem ofDecimal_neg (digits : Nat) (e : Int) :
    ofDecimal true digits e = (ofDecimal false digits e).neg := by
  have hunits : ∀ u, ofUnits true u = (ofUnits false u).neg := by
    intro u
    unfold ofUnits
    split <;> rfl
  unfold ofDecimal
  split
  · rfl
  · split
    · rfl
    · split
      · rfl
      · cases e <;> exact hunits _

theorem eq_false_of_ofDecimal {digits u : Nat} {e : Int} {negative : Bool} {h : Representable u}
    (hread : ofDecimal false digits e = .finite negative u h) : negative = false := by
  have hunits : ∀ w, ofUnits false w = .finite negative u h → negative = false := by
    intro w hw
    unfold ofUnits at hw
    split at hw
    · exact (finite.inj hw).1.symm
    · cases hw
  unfold ofDecimal at hread
  split at hread
  · exact (finite.inj hread).1.symm
  · split at hread
    · cases hread
    · split at hread
      · exact (finite.inj hread).1.symm
      · cases e <;> exact hunits _ hread

/-! ## The shortest decimal -/

section Shortest
open Decimal
variable {u : Nat} {i : Int}

/-- The gap of a decimal grid is at most a quarter of the gap between doubles. -/
def Fine (u : Nat) (i : Int) : Prop := 4 * (one * 10 ^ i.toNat) ≤ 10 ^ (-i).toNat * spacing u

theorem floorOnGrid_eq (u : Nat) (i : Int) :
    floorOnGrid u i = u * 10 ^ (-i).toNat / (one * 10 ^ i.toNat) := by
  cases i with
  | ofNat n => simp [floorOnGrid]
  | negSucc n => simp [floorOnGrid]

/-- On a fine grid the neighbour below reads back. -/
theorem readsBack_floorOnGrid (hu : Representable u) (hpos : u ≠ 0) (hlow : -400 ≤ i)
    (hhigh : i ≤ 400) (fine : Fine u i) : readsBack u ⟨floorOnGrid u i, i⟩ = true := by
  have hden : 0 < 10 ^ (-i).toNat := Nat.pow_pos (by norm_num)
  have hgap : 0 < one * 10 ^ i.toNat := Nat.mul_pos one_pos (Nat.pow_pos (by norm_num))
  have hle : floorOnGrid u i * (one * 10 ^ i.toNat) ≤ u * 10 ^ (-i).toNat := by
    rw [floorOnGrid_eq]
    exact Nat.div_mul_le_self ..
  have near : 4 * (u * 10 ^ (-i).toNat) <
      4 * (floorOnGrid u i * (one * 10 ^ i.toNat)) + 10 ^ (-i).toNat * spacing u := by
    have hlt := Nat.lt_div_mul_add (a := u * 10 ^ (-i).toNat) hgap
    rw [← floorOnGrid_eq] at hlt
    rw [Fine] at fine
    omega
  have hdigits : floorOnGrid u i ≠ 0 := by
    intro hzero
    have hspacing := Nat.le_of_dvd (Nat.pos_of_ne_zero hpos) hu.spacing_dvd
    have hunits := Nat.mul_le_mul_left (10 ^ (-i).toNat) hspacing
    rw [hzero, mul_comm u] at near
    omega
  have hread := ofDecimal_eq false hdigits hlow hhigh
  rw [mul_assoc, mul_comm (10 ^ i.toNat), ofRatio_eq_finite false hden hu hle] at hread
  simp only [readsBack, hread, rounded_eq_of_near hden hu hle near, beq_self_eq_true]

theorem log2_lt_of_representable {k : Nat} (hu : Representable u) (hpos : u ≠ 0)
    (hk : bound = 2 ^ k) : u.log2 < k :=
  (Nat.log2_lt hpos).mpr (hu.1.trans_eq hk)

theorem four_mul_one : 4 * one = 2 ^ 1076 := by decide +kernel

/-- The last grid that is searched is fine. -/
theorem fine_finest (hu : Representable u) (hpos : u ≠ 0) : Fine u (coarsest u - 23) := by
  have hlog := log2_lt_of_representable hu hpos bound_eq_two_pow
  obtain ⟨n, hn⟩ : ∃ n, n = (coarsest u - 23).toNat := ⟨_, rfl⟩
  obtain ⟨m, hm⟩ : ∃ m, m = (-(coarsest u - 23)).toNat := ⟨_, rfl⟩
  have hexponents : 1076 + (10 * n + 2) / 3 ≤ 33 * m / 10 + (u.log2 - 52) := by
    rw [coarsest] at hn hm
    omega
  rw [Fine, ← hn, ← hm]
  calc 4 * (one * 10 ^ n) = 2 ^ 1076 * 10 ^ n := by rw [← mul_assoc, four_mul_one]
    _ ≤ 2 ^ 1076 * 2 ^ ((10 * n + 2) / 3) := Nat.mul_le_mul_left _ (ten_pow_le n)
    _ = 2 ^ (1076 + (10 * n + 2) / 3) := (pow_add ..).symm
    _ ≤ 2 ^ (33 * m / 10 + (u.log2 - 52)) := Nat.pow_le_pow_right two_pos hexponents
    _ = 2 ^ (33 * m / 10) * 2 ^ (u.log2 - 52) := pow_add ..
    _ ≤ 10 ^ m * spacing u := Nat.mul_le_mul_right _ (two_pow_le m)

theorem eq_of_onGrid? {tie : Tie} {d : Decimal} (h : onGrid? tie u i = some d) :
    readsBack u d = true ∧ d.exponent = i := by
  unfold onGrid? at h
  dsimp only at h
  split at h
  · next hbelow =>
    split at h
    · next habove =>
      obtain rfl := Option.some.inj h
      exact ⟨(Bool.and_eq_true_iff.mp habove).1, rfl⟩
    · obtain rfl := Option.some.inj h
      exact ⟨hbelow, rfl⟩
  · split at h
    · next habove =>
      obtain rfl := Option.some.inj h
      exact ⟨habove, rfl⟩
    · cases h

/-- A grid whose lower neighbour reads back is not passed by. -/
theorem isSome_onGrid? (tie : Tie) (h : readsBack u ⟨floorOnGrid u i, i⟩ = true) :
    (onGrid? tie u i).isSome = true := by
  simp only [onGrid?, h, if_true]
  split <;> rfl

/-- The shortest decimal is one that reads back, and its exponent is moderate. -/
theorem shortest_spec (tie : Tie) (hu : Representable u) (hpos : u ≠ 0) :
    readsBack u (shortest tie u) = true ∧
      -400 ≤ (shortest tie u).exponent ∧ (shortest tie u).exponent ≤ 400 := by
  have hlog := log2_lt_of_representable hu hpos bound_eq_two_pow
  have hrange : ∀ k : Nat, k < 24 →
      -400 ≤ coarsest u - (k : Int) ∧ coarsest u - (k : Int) ≤ 400 := by
    intro k hk
    rw [coarsest]
    omega
  have hfound : ((List.range 24).findSome? fun (k : Nat) =>
      onGrid? tie u (coarsest u - (k : Int))).isSome = true := by
    refine List.findSome?_isSome_iff.mpr ⟨23, by decide, isSome_onGrid? tie ?_⟩
    have hlast := hrange 23 (by omega)
    exact readsBack_floorOnGrid hu hpos hlast.1 hlast.2 (fine_finest hu hpos)
  obtain ⟨d, hd⟩ := Option.isSome_iff_exists.mp hfound
  have hshortest : shortest tie u = d := by
    rw [shortest]
    simp only [hd, Option.getD_some]
  obtain ⟨k, hk, hgrid⟩ := List.exists_of_findSome?_eq_some hd
  obtain ⟨hreads, hexponent⟩ := eq_of_onGrid? hgrid
  rw [hshortest, hexponent]
  exact ⟨hreads, hrange k (List.mem_range.mp hk)⟩

/-- **The shortest decimal reads back**, under either sign. -/
theorem ofDecimal_shortest (tie : Tie) (negative : Bool) (hu : Representable u) (hpos : u ≠ 0) :
    ofDecimal negative (shortest tie u).digits (shortest tie u).exponent =
      .finite negative u hu := by
  have hreads := (shortest_spec tie hu hpos).1
  have hpositive : ofDecimal false (shortest tie u).digits (shortest tie u).exponent =
      .finite false u hu := by
    unfold readsBack at hreads
    split at hreads
    · next s w hw hread =>
      obtain rfl := beq_iff_eq.mp hreads
      rw [hread, eq_false_of_ofDecimal hread]
    · cases hreads
  cases negative with
  | false => exact hpositive
  | true => rw [ofDecimal_neg, hpositive]; rfl

end Shortest

end Double
end SchemaEngine
