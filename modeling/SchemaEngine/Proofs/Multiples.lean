import SchemaEngine.Proofs.CheckTypes
import SchemaEngine.Proofs.Composites
import SchemaEngine.Proofs.WholeNumbers

/-!
# Multiples of integers

What is left of an integer when the nearest multiple of another is taken away is computed in
four steps, each of which may round: a quotient, the integer nearest to it (`quotient`), a
product and a difference.  The quotient never leaves the two integers around it, so a multiple
is always found.  Below `2 ^ 52` the integer is also the nearest one, and product and
difference are exact; from there on the product may be one off.

The remainder is compared with a tolerance.  One part of it is a billionth of the divisor, the
other four units in the last place of the number, which is the number divided by `2 ^ 50`.  As
long as both are below one, a number is accepted when it is a multiple; from there on the
numbers near a multiple are accepted too.
-/

namespace SchemaEngine

namespace Double

attribute [local irreducible] one bound

/-! ## The quotient -/

/-- The integer nearest to the rounded quotient of two integers. -/
def quotient (a b : Nat) : Nat := (2 * rounded (a * one * one) (b * one) + one) / (2 * one)

section Quotient
variable {a b : Nat}

theorem quotient_eq_of_bounds {k : Nat} (hlow : k * one ≤ rounded (a * one * one) (b * one))
    (hhigh : rounded (a * one * one) (b * one) ≤ (k + 1) * one) :
    quotient a b = k ∨ quotient a b = k + 1 := by
  have hpos := one_pos
  have hle : k ≤ quotient a b := by
    refine (Nat.le_div_iff_mul_le (by omega)).mpr ?_
    linarith
  have hlt : quotient a b < k + 2 := by
    refine (Nat.div_lt_iff_lt_mul (by omega)).mpr ?_
    linarith
  omega

theorem quotient_cases (hb : 0 < b) (ha : a < 2 ^ 53) :
    quotient a b = a / b ∨ quotient a b = a / b + 1 := by
  have hunits : ∀ k, k * one * (b * one) = k * b * (one * one) := fun k => by ring
  have hle : a / b ≤ a := Nat.div_le_self a b
  refine quotient_eq_of_bounds ?_ ?_
  · refine le_rounded (Nat.mul_pos hb one_pos) (representable_whole (by omega)).spacing_dvd ?_
    rw [hunits, mul_assoc a]
    exact Nat.mul_le_mul_right _ (Nat.div_mul_le_self a b)
  · refine rounded_le (Nat.mul_pos hb one_pos) (representable_whole (by omega)).spacing_dvd ?_
    rw [hunits, mul_assoc a]
    exact Nat.mul_le_mul_right _ (Nat.lt_mul_of_div_lt (Nat.lt_succ_self _) hb).le

theorem quotient_mul_le (hb : 0 < b) (ha : a < 2 ^ 53) : quotient a b * b ≤ a + b := by
  have hfloor := Nat.div_mul_le_self a b
  rcases quotient_cases hb ha with h | h <;> rw [h]
  · omega
  · rw [add_mul, one_mul]
    omega

theorem quotient_of_dvd (hb : 0 < b) (ha : a < 2 ^ 53) (h : b ∣ a) : quotient a b * b = a := by
  obtain ⟨k, rfl⟩ := h
  have hk : k ≤ 2 ^ 53 := (Nat.le_mul_of_pos_left k hb).trans ha.le
  have hexact : rounded (b * k * one * one) (b * one) = k * one := by
    rw [show b * k * one * one = k * one * (b * one) by ring]
    exact rounded_of_representable (Nat.mul_pos hb one_pos) (representable_whole hk)
  have hquotient : quotient (b * k) b = k := by
    rw [quotient, hexact]
    refine Nat.div_eq_of_lt_le ?_ ?_ <;> have := one_pos <;> linarith
  rw [hquotient, mul_comm]

/-- The gap between the doubles around the quotient is too small to hide that the quotient
is not half-way between two integers. -/
theorem spacing_quotient (hb : 0 < b) (hb' : b < 2 ^ 53) (ha : a < 2 ^ 52) :
    b * spacing (a * one * one / (b * one)) < one := by
  have hquot : a * one * one / (b * one) * b ≤ a * one := by
    rw [Nat.mul_div_mul_right _ _ one_pos]
    exact Nat.div_mul_le_self _ _
  rcases Nat.lt_or_ge (a * one * one / (b * one)) (2 ^ 52) with hsmall | hlarge
  · have hspacing := spacing_le_two_pow (k := 0) (hsmall.trans (by norm_num))
    have hone := two_pow_le_one (k := 53) (by norm_num)
    calc b * spacing (a * one * one / (b * one)) ≤ b * 1 := Nat.mul_le_mul_left _ hspacing
      _ < one := by omega
  · have hspacing := spacing_mul_le hlarge
    have hscaled : b * spacing (a * one * one / (b * one)) * 2 ^ 52 < one * 2 ^ 52 := by
      calc b * spacing (a * one * one / (b * one)) * 2 ^ 52
          = b * (spacing (a * one * one / (b * one)) * 2 ^ 52) := by ring
        _ ≤ b * (a * one * one / (b * one)) := Nat.mul_le_mul_left _ hspacing
        _ ≤ a * one := by linarith
        _ < one * 2 ^ 52 := by
          rw [mul_comm one]
          exact Nat.mul_lt_mul_of_pos_right ha one_pos
    exact Nat.lt_of_mul_lt_mul_right hscaled

/-- Below `2 ^ 52` no multiple is nearer than the one found. -/
theorem quotient_nearest (hb : 0 < b) (hb' : b < 2 ^ 53) (ha : a < 2 ^ 52) :
    2 * (quotient a b * b) ≤ 2 * a + b ∧ 2 * a ≤ 2 * (quotient a b * b) + b := by
  have hpos := one_pos
  set u := rounded (a * one * one) (b * one) with hu
  have hfloor : quotient a b * (2 * one) ≤ 2 * u + one := Nat.div_mul_le_self _ _
  have hceil : 2 * u + one < (quotient a b + 1) * (2 * one) :=
    Nat.lt_mul_of_div_lt (Nat.lt_succ_self _) (by omega)
  constructor
  · have herror : 2 * (u * (b * one)) ≤ 2 * (a * one * one) + b * one * _ :=
      two_mul_rounded_le (a * one * one) (b * one)
    have hspacing := spacing_quotient hb hb' ha
    set g := spacing (a * one * one / (b * one))
    have herror : 2 * (u * b) ≤ 2 * (a * one) + b * g := by
      refine Nat.le_of_mul_le_mul_right ?_ hpos
      linarith
    have hscaled : 2 * (quotient a b * b) * one < (2 * a + b + 1) * one := by
      have := Nat.mul_le_mul_left b hfloor
      linarith
    exact Nat.lt_succ_iff.mp (Nat.lt_of_mul_lt_mul_right hscaled)
  · -- otherwise the quotient is at least half-way to the next integer, and stays there
    by_contra hgap
    have hodd : 2 * quotient a b + 1 < 2 ^ 53 := by
      have := Nat.le_mul_of_pos_right (2 * quotient a b + 1) hb
      have : (2 * quotient a b + 1) * b = 2 * (quotient a b * b) + b := by ring
      omega
    obtain ⟨k, hk⟩ : ∃ k, k + 1 = 1074 := ⟨1073, rfl⟩
    have hhalf : one = 2 ^ k * 2 := one_eq (k := 1) hk
    have hrep := representable_mul_two_pow hodd (k := k) (by omega)
    have hle : (2 * quotient a b + 1) * 2 ^ k ≤ u := by
      refine le_rounded (Nat.mul_pos hb hpos) hrep.spacing_dvd ?_
      have hscaled : (2 * (quotient a b * b) + b) * (2 ^ k * one) ≤ 2 * a * (2 ^ k * one) :=
        Nat.mul_le_mul_right _ (by omega)
      calc (2 * quotient a b + 1) * 2 ^ k * (b * one)
          = (2 * (quotient a b * b) + b) * (2 ^ k * one) := by ring
        _ ≤ 2 * a * (2 ^ k * one) := hscaled
        _ = a * (2 ^ k * 2) * one := by ring
        _ = a * one * one := by rw [← hhalf]
    rw [hhalf] at hceil
    linarith

end Quotient

/-! ## The remainder -/

section Remainder
variable (s t : Bool) {a b : Nat} (ha : Representable (a * one)) (hb : Representable (b * one))

theorem roundHalfAway_div_whole (hpos : 0 < b) (hlt : a < 2 ^ 53) :
    ∃ h, (div (.finite s (a * one) ha) (.finite t (b * one) hb)).roundHalfAway =
      .finite (s != t) (quotient a b * one) h := by
  have hden : 0 < b * one := Nat.mul_pos hpos one_pos
  have hle : a * one * one ≤ a * one * (b * one) :=
    Nat.mul_le_mul_left _ (Nat.le_mul_of_pos_left one hpos)
  have hquotient : quotient a b ≤ 2 ^ 53 := by
    have := Nat.div_le_self a b
    rcases quotient_cases hpos hlt with h | h <;> omega
  refine ⟨representable_whole hquotient, ?_⟩
  rw [div, if_neg hden.ne', ofRatio_eq_finite _ hden ha hle, roundHalfAway, ← quotient]
  exact ofUnits_of_representable _ _

/-- The remainder is the distance to the multiple found, or to what that is rounded to. -/
theorem abs_remainder_whole (hpos : 0 < b) (hlt : a < 2 ^ 53) (hlt' : b < 2 ^ 53) :
    ∃ p, RoundsTo (quotient a b * b) p ∧
      ∃ h, (Check.remainder (.finite s (a * one) ha) (.finite t (b * one) hb)).abs =
        .finite false (((a : Int) - p).natAbs * one) h := by
  have hle := quotient_mul_le hpos hlt
  obtain ⟨hq, hquotient⟩ := roundHalfAway_div_whole s t ha hb hpos hlt
  obtain ⟨p, hrep, hproduct, hp⟩ := mul_whole (s != t) t hq hb (by omega)
  have hsign : ((s != t) != t) = s := by cases s <;> cases t <;> rfl
  have hsize : ((a : Int) - p).natAbs ≤ 2 ^ 53 := by
    have := hp.upper
    omega
  refine ⟨p, hp, representable_whole hsize, ?_⟩
  simp only [Check.remainder, hquotient, hproduct, hsign]
  exact abs_sub_whole s ha hrep hsize

end Remainder

/-! ## The tolerance -/

theorem atMost_iff {u w : Nat} (hu : Representable u) (hw : Representable w) :
    atMost (.finite false u hu) (.finite false w hw) = true ↔ u ≤ w := by
  simp [atMost, less, equals, signed, le_iff_lt_or_eq]

theorem atMost_max_iff {u v w : Nat} (hu : Representable u) (hv : Representable v)
    (hw : Representable w) :
    atMost (.finite false u hu) (max (.finite false v hv) (.finite false w hw)) = true ↔
      u ≤ v ∨ u ≤ w := by
  have hless : less (.finite false v hv) (.finite false w hw) = true ↔ v < w := by
    simp [less, signed]
  unfold max
  split
  · next hcond =>
    have hvw : v < w := by simpa [isNaN, hless] using hcond
    rw [atMost_iff hu hw]
    omega
  · next hcond =>
    have hvw : ¬ v < w := by simpa [isNaN, hless] using hcond
    rw [atMost_iff hu hv]
    omega

theorem fourUlps_eq : ∃ k h, k + 50 = 1074 ∧ Check.fourUlps = .finite false (2 ^ k) h :=
  ⟨1024, by decide +kernel, by norm_num, by decide +kernel⟩

/-- A billionth is rounded up, by less than a part in `2 ^ 53`. -/
theorem billionth_eq : ∃ u h, Check.billionth = .finite false u h ∧
    one ≤ u * 10 ^ 9 ∧ u * 10 ^ 9 * 2 ^ 53 ≤ one * (2 ^ 53 + 1) :=
  ⟨rounded one (Nat.pow 10 9), by decide +kernel, by decide +kernel, by decide +kernel,
    by decide +kernel⟩

theorem fourUlps_mul_whole {a : Nat} (ha : Representable (a * one)) (hlt : a < 2 ^ 53) :
    ∃ w h, Check.fourUlps.mul (.finite false (a * one) ha) = .finite false w h ∧
      ∀ c, c * one ≤ w ↔ 2 ^ 50 * c ≤ a := by
  obtain ⟨k, hrep, hk, hulps⟩ := fourUlps_eq
  have hone : one = 2 ^ k * 2 ^ 50 := one_eq hk
  refine ⟨a * 2 ^ k, representable_mul_two_pow hlt (by omega), ?_, fun c => ?_⟩
  · have hmul : Check.fourUlps.mul (.finite false (a * one) ha) =
        ofRatio false (2 ^ k * (a * one)) one := by
      rw [hulps]
      rfl
    rw [hmul, ← mul_assoc, mul_comm (2 ^ k)]
    exact ofRatio_of_representable false one_pos _
  · rw [hone, mul_comm (2 ^ k), ← mul_assoc, mul_comm c]
    exact Nat.mul_le_mul_right_iff (Nat.two_pow_pos k)

/-- What the rounded billionth part of an integer reaches is little more than that part. -/
theorem scaled_le_of_le_rounded {u b c i j : Nat} (hij : i + j = 53)
    (hu : u * 10 ^ 9 * 2 ^ 53 ≤ one * (2 ^ 53 + 1)) (hb : b < 2 ^ (j + 29))
    (h : c * one ≤ rounded (u * (b * one)) one) :
    10 ^ 9 * c * 2 ^ 54 ≤ 2 * b * (2 ^ 53 + 1) + 10 ^ 9 * 2 ^ j := by
  have hquot : u * (b * one) / one = u * b := by
    rw [← mul_assoc, Nat.mul_div_cancel _ one_pos]
  have hsize : u * b < one * 2 ^ j := by
    refine Nat.lt_of_mul_lt_mul_right (a := 10 ^ 9 * 2 ^ 53) ?_
    calc u * b * (10 ^ 9 * 2 ^ 53) = u * 10 ^ 9 * 2 ^ 53 * b := by ring
      _ ≤ one * (2 ^ 53 + 1) * b := Nat.mul_le_mul_right _ hu
      _ < one * (2 ^ 53 + 1) * 2 ^ (j + 29) :=
        Nat.mul_lt_mul_of_pos_left hb (Nat.mul_pos one_pos (by norm_num))
      _ = one * 2 ^ j * ((2 ^ 53 + 1) * 2 ^ 29) := by rw [pow_add]; ring
      _ ≤ one * 2 ^ j * (10 ^ 9 * 2 ^ 53) := Nat.mul_le_mul_left _ (by norm_num)
  have hgap := spacing_mul_le_one hij hsize
  have herror := two_mul_rounded_le (u * (b * one)) one
  rw [hquot] at herror
  set g := spacing (u * b)
  have hreach : 2 * (c * one) ≤ 2 * (u * b) + g := by
    refine Nat.le_of_mul_le_mul_right ?_ one_pos
    have := Nat.mul_le_mul_right one h
    linarith
  refine Nat.le_of_mul_le_mul_right ?_ one_pos
  have hpow : (2 : Nat) ^ 53 = 2 ^ j * 2 ^ i := by rw [← pow_add, ← hij, add_comm]
  calc 10 ^ 9 * c * 2 ^ 54 * one = 2 * (c * one) * (10 ^ 9 * 2 ^ 53) := by ring
    _ ≤ (2 * (u * b) + g) * (10 ^ 9 * 2 ^ 53) := Nat.mul_le_mul_right _ hreach
    _ = 2 * b * (u * 10 ^ 9 * 2 ^ 53) + 10 ^ 9 * 2 ^ j * (g * 2 ^ i) := by
      rw [add_mul]
      congr 1
      · ring
      · rw [hpow]
        ring
    _ ≤ 2 * b * (one * (2 ^ 53 + 1)) + 10 ^ 9 * 2 ^ j * one :=
      Nat.add_le_add (Nat.mul_le_mul_left _ hu) (Nat.mul_le_mul_left _ hgap)
    _ = (2 * b * (2 ^ 53 + 1) + 10 ^ 9 * 2 ^ j) * one := by ring

/-- So many units are the rounded billionth part of an integer: they reach the whole numbers
that the exact part reaches, and hardly any other. -/
structure BillionthOf (b w : Nat) : Prop where
  reaches : ∀ c, 10 ^ 9 * c ≤ b → c * one ≤ w
  bounded : ∀ c, c * one ≤ w → 10 ^ 9 * c ≤ b + 1
  sharp : b < 2 ^ 52 → ∀ c, c * one ≤ w → 10 ^ 9 * c ≤ b

theorem billionth_mul_whole {b : Nat} (hb : Representable (b * one)) (hlt : b < 2 ^ 53) :
    ∃ w h, Check.billionth.mul (.finite false (b * one) hb) = .finite false w h ∧
      BillionthOf b w := by
  obtain ⟨u, hu, hbillionth, hlow, hhigh⟩ := billionth_eq
  have hle : u * (b * one) ≤ b * one * one := by
    have hone : u ≤ one := by omega
    rw [mul_comm]
    exact Nat.mul_le_mul_left _ hone
  refine ⟨rounded (u * (b * one)) one, representable_rounded one_pos hb hle, ?_, fun c hc => ?_,
    fun c hc => ?_, fun hlt c hc => ?_⟩
  · rw [hbillionth]
    exact ofRatio_eq_finite false one_pos hb hle
  · refine le_rounded one_pos (representable_whole (by omega)).spacing_dvd ?_
    rw [← mul_assoc]
    refine Nat.mul_le_mul_right _ ?_
    calc c * one ≤ c * (u * 10 ^ 9) := Nat.mul_le_mul_left _ hlow
      _ = u * (10 ^ 9 * c) := by ring
      _ ≤ u * b := Nat.mul_le_mul_left _ hc
  · have := scaled_le_of_le_rounded (i := 29) (j := 24) (by norm_num) hhigh (by omega) hc
    omega
  · have := scaled_le_of_le_rounded (i := 30) (j := 23) (by norm_num) hhigh (by omega) hc
    omega

/-! ## Multiples -/

section Multiples
variable {a b : Nat}

/-- What the check comes to on integers. -/
theorem isMultiple_whole (s t : Bool) (ha : Representable (a * one))
    (hb : Representable (b * one)) (hpos : 0 < b) (hlt : a < 2 ^ 53) (hlt' : b < 2 ^ 53) :
    ∃ p w, RoundsTo (quotient a b * b) p ∧ BillionthOf b w ∧
      (Check.isMultiple (.finite s (a * one) ha) (.finite t (b * one) hb) = true ↔
        ((a : Int) - p).natAbs * one ≤ w ∨ 2 ^ 50 * ((a : Int) - p).natAbs ≤ a) := by
  obtain ⟨p, hp, hrep, hremainder⟩ := abs_remainder_whole s t ha hb hpos hlt hlt'
  obtain ⟨w, hw, hbillionth, hof⟩ := billionth_mul_whole hb hlt'
  obtain ⟨v, hv, hulps, hiff⟩ := fourUlps_mul_whole ha hlt
  refine ⟨p, w, hp, hof, ?_⟩
  have hguard :
      (isZero (.finite t (b * one) hb) || !isFinite (.finite t (b * one) hb)) = false := by
    rw [isZero, isFinite, beq_eq_false_iff_ne.mpr (Nat.mul_pos hpos one_pos).ne']
    rfl
  rw [Check.isMultiple, hguard, if_neg Bool.false_ne_true, hremainder, Check.tolerance, abs, abs,
    hbillionth, hulps, atMost_max_iff, hiff]

variable {s t : Bool} {ha : Representable (a * one)} {hb : Representable (b * one)}

theorem isMultiple_of_dvd (hpos : 0 < b) (hlt : a < 2 ^ 53) (hlt' : b < 2 ^ 53) (h : b ∣ a) :
    Check.isMultiple (.finite s (a * one) ha) (.finite t (b * one) hb) = true := by
  obtain ⟨p, w, hp, -, hiff⟩ := isMultiple_whole s t ha hb hpos hlt hlt'
  have hproduct := quotient_of_dvd hpos hlt h
  have hexact := hp.same (by omega)
  exact hiff.mpr (.inr (by omega))

/-- A number that is accepted is within twice the tolerance of a multiple: where the product is
rounded, the tolerance is large enough to hide that. -/
theorem near_of_isMultiple (hpos : 0 < b) (hlt : a < 2 ^ 53) (hlt' : b < 2 ^ 53)
    (h : Check.isMultiple (.finite s (a * one) ha) (.finite t (b * one) hb) = true) :
    10 ^ 9 * ((a : Int) - (quotient a b * b : Nat)).natAbs ≤ 2 * b ∨
      2 ^ 49 * ((a : Int) - (quotient a b * b : Nat)).natAbs ≤ a := by
  obtain ⟨p, w, hp, hw, hiff⟩ := isMultiple_whole s t ha hb hpos hlt hlt'
  have hupper := hp.upper
  have hlower := hp.lower
  rcases Nat.lt_or_ge (2 ^ 53) (quotient a b * b) with hlarge | hsmall
  · -- a product that is rounded is at most twice the number
    have hfloor := Nat.div_mul_le_self a b
    have ha : 2 ^ 52 ≤ a := by
      rcases Nat.eq_zero_or_pos (a / b) with hzero | hquot
      · rcases quotient_cases hpos hlt with hq | hq <;> rw [hq, hzero] at hlarge <;> omega
      · have hb := Nat.le_mul_of_pos_left b hquot
        have := quotient_mul_le hpos hlt
        omega
    by_cases hsecond : 2 ^ 50 * ((a : Int) - p).natAbs ≤ a
    · exact .inr (by omega)
    · have := hw.bounded _ ((hiff.mp h).resolve_right hsecond)
      exact .inl (by omega)
  · have hexact := hp.same hsmall
    rw [← hexact]
    rcases hiff.mp h with hfirst | hsecond
    · have := hw.bounded _ hfirst
      exact .inl (by omega)
    · exact .inr (by omega)

/-- The multiple found is as near as any other, below `2 ^ 52`. -/
theorem natAbs_sub_quotient_le (hpos : 0 < b) (hlt' : b < 2 ^ 53) (hlt : a < 2 ^ 52) (k : Int) :
    ((a : Int) - (quotient a b * b : Nat)).natAbs ≤ ((a : Int) - k * b).natAbs := by
  obtain ⟨hlow, hhigh⟩ := quotient_nearest hpos hlt' hlt
  have hproduct : ((quotient a b * b : Nat) : Int) = quotient a b * b := by push_cast; rfl
  rcases lt_trichotomy k (quotient a b) with hk | hk | hk
  · have hstep : (k + 1) * (b : Int) ≤ quotient a b * b :=
      Int.mul_le_mul_of_nonneg_right hk (by omega)
    rw [add_mul, one_mul] at hstep
    omega
  · rw [hk, hproduct]
  · have hstep : ((quotient a b : Int) + 1) * b ≤ k * b :=
      Int.mul_le_mul_of_nonneg_right hk (by omega)
    rw [add_mul, one_mul] at hstep
    omega

/-- Below `2 ^ 52` the tolerance is what it is meant to be. -/
theorem isMultiple_iff_near (hpos : 0 < b) (hlt : a < 2 ^ 52) (hlt' : b < 2 ^ 52) :
    Check.isMultiple (.finite s (a * one) ha) (.finite t (b * one) hb) = true ↔
      ∃ k : Int, 10 ^ 9 * ((a : Int) - k * b).natAbs ≤ b ∨
        2 ^ 50 * ((a : Int) - k * b).natAbs ≤ a := by
  obtain ⟨p, w, hp, hw, hiff⟩ := isMultiple_whole s t ha hb hpos (by omega) (by omega)
  have hle := quotient_mul_le (a := a) hpos (by omega)
  rw [hiff, hp.same (by omega)]
  constructor
  · intro h
    refine ⟨quotient a b, ?_⟩
    push_cast at h ⊢
    exact h.imp_left (hw.sharp hlt' _)
  · rintro ⟨k, h⟩
    have hnearest := natAbs_sub_quotient_le hpos (by omega) hlt k
    rcases h with hfirst | hsecond
    · exact .inl (hw.reaches _ (by omega))
    · exact .inr (by omega)

end Multiples

/-- The distances of an integer from the multiples of another do not depend on their signs. -/
theorem exists_distance_iff (n d : Int) (P : Nat → Prop) :
    (∃ k : Int, P ((n.natAbs : Int) - k * d.natAbs).natAbs) ↔ ∃ k : Int, P (n - k * d).natAbs := by
  have hdivisor : ∀ m : Int, (∃ k : Int, P (m - k * d.natAbs).natAbs) ↔
      ∃ k : Int, P (m - k * d).natAbs := by
    intro m
    rcases Int.natAbs_eq d with hd | hd
    · rw [← hd]
    · have hflip : ∀ k : Int, m - k * d = m - -k * d.natAbs := fun k => by rw [hd]; simp
      simp only [hflip]
      exact (Equiv.neg Int).exists_congr_left.trans (by simp)
  rw [hdivisor]
  rcases Int.natAbs_eq n with hn | hn
  · rw [← hn]
  · have hflip : ∀ k : Int, (n - k * d).natAbs = ((n.natAbs : Int) - -k * d).natAbs := fun k => by
      rw [← Int.natAbs_neg, hn]
      congr 1
      simp
      ring
    simp only [hflip]
    exact (Equiv.neg Int).exists_congr_left.trans (by simp)

end Double

open Double

attribute [local irreducible] Double.one

theorem Schema.number_accepts {x : Double} (h : x.isNaN = false) (o : Options) (d : Draws) :
    (leaf .number {}).safeParse o (.number x) d = (.ok (.number x), d) := by
  simp only [safeParse, leaf, Primitive.number, run_unstepped, Shape.base, Test.holds, pure_bind,
    Condition.number, h, Bool.not_false, if_true]
  rfl

/-- A number reaches the check as it is. -/
theorem Schema.multipleOf_eq_ok_iff {x : Double} (h : x.isNaN = false) (divisor : Double)
    (o : Options) (d : Draws) :
    ((leaf .number {}).attach (Check.multipleOf divisor)).safeParse o (.number x) d =
      (.ok (.number x), d) ↔ Check.isMultiple x divisor = true :=
  accepts_refine_iff (number_accepts h o d) _ _ _

/-- **Multiples of integers, within the tolerance.**  A number that stands for an integer is
compared with a divisor that stands for another, both smaller than `2 ^ 53` in size.

* A multiple is accepted.
* What is accepted is within twice the tolerance of a multiple, the tolerance being a
  billionth of the divisor or the number divided by `2 ^ 50`.
* Below `2 ^ 52` the numbers within the tolerance of a multiple are those that are accepted.
* Where both parts of the tolerance are below one, only multiples are accepted. -/
theorem Schema.multipleOf_accepts {x divisor : Double} {n d : Int}
    (hx : x.exactInteger? = some n) (hdivisor : divisor.exactInteger? = some d)
    (nonzero : d ≠ 0) (o : Options) (draws : Draws) :
    let s := (leaf .number {}).attach (Check.multipleOf divisor)
    let accepted := s.safeParse o (.number x) draws = (.ok (.number x), draws)
    (d ∣ n → accepted) ∧
    (accepted → ∃ k : Int, 10 ^ 9 * (n - k * d).natAbs ≤ 2 * d.natAbs ∨
      2 ^ 49 * (n - k * d).natAbs ≤ n.natAbs) ∧
    (n.natAbs < 2 ^ 52 → d.natAbs < 2 ^ 52 →
      (accepted ↔ ∃ k : Int, 10 ^ 9 * (n - k * d).natAbs ≤ d.natAbs ∨
        2 ^ 50 * (n - k * d).natAbs ≤ n.natAbs)) ∧
    (n.natAbs < 2 ^ 50 → d.natAbs < 10 ^ 9 → (accepted ↔ d ∣ n)) := by
  intro s accepted
  obtain ⟨hx, hn⟩ := exactInteger?_eq_some_iff.mp hx
  obtain ⟨hdivisor, hd⟩ := exactInteger?_eq_some_iff.mp hdivisor
  obtain ⟨sign, hunits, rfl, -⟩ := wholeNumber?_eq_some_iff.mp hx
  obtain ⟨sign', hunits', rfl, -⟩ := wholeNumber?_eq_some_iff.mp hdivisor
  have hpos : 0 < d.natAbs := Int.natAbs_pos.mpr nonzero
  have haccepted : accepted ↔ Check.isMultiple (.finite sign (n.natAbs * one) hunits)
      (.finite sign' (d.natAbs * one) hunits') = true := multipleOf_eq_ok_iff rfl _ o draws
  have hiff : n.natAbs < 2 ^ 52 → d.natAbs < 2 ^ 52 →
      (accepted ↔ ∃ k : Int, 10 ^ 9 * (n - k * d).natAbs ≤ d.natAbs ∨
        2 ^ 50 * (n - k * d).natAbs ≤ n.natAbs) := by
    intro hsmall hsmall'
    rw [haccepted, isMultiple_iff_near hpos hsmall hsmall']
    exact exists_distance_iff n d fun c => 10 ^ 9 * c ≤ d.natAbs ∨ 2 ^ 50 * c ≤ n.natAbs
  refine ⟨fun hdvd => ?_, fun haccept => ?_, hiff, fun hsmall hsmall' => ?_⟩
  · exact haccepted.mpr (isMultiple_of_dvd hpos hn hd (Int.natAbs_dvd_natAbs.mpr hdvd))
  · have hnear := near_of_isMultiple hpos hn hd (haccepted.mp haccept)
    refine (exists_distance_iff n d fun c =>
      10 ^ 9 * c ≤ 2 * d.natAbs ∨ 2 ^ 49 * c ≤ n.natAbs).mp ⟨quotient n.natAbs d.natAbs, ?_⟩
    rw [Nat.cast_mul] at hnear
    exact hnear
  · rw [hiff (by omega) (by omega)]
    constructor
    · -- a distance below one is none
      rintro ⟨k, h⟩
      have hzero : (n - k * d).natAbs = 0 := by omega
      exact ⟨k, by linarith [Int.natAbs_eq_zero.mp hzero, mul_comm k d]⟩
    · rintro ⟨k, rfl⟩
      exact ⟨k, .inl (by simp [mul_comm])⟩

/-- A quadrillion and one is not taken for a multiple of three. -/
theorem Schema.multipleOf_accepts_of_large :
    let x := ofInt 1000000000000001
    let s := (leaf .number {}).attach (Check.multipleOf (ofInt 3))
    x.exactInteger? = some 1000000000000001 ∧ (ofInt 3).exactInteger? = some 3 ∧
    (3 : Int) ≠ 0 ∧ s.safeParse {} (.number x) [] ≠ (.ok (.number x), []) := by
  intro x s
  have hx : x.exactInteger? = some 1000000000000001 := exactInteger?_ofInt (by norm_num)
  have hdivisor : (ofInt 3).exactInteger? = some 3 := exactInteger?_ofInt (by norm_num)
  have nonzero : (3 : Int) ≠ 0 := by norm_num
  refine ⟨hx, hdivisor, nonzero, fun accepted => ?_⟩
  have hdvd := ((multipleOf_accepts hx hdivisor nonzero {} []).2.2.2 (by norm_num)
    (by norm_num)).mp accepted
  omega

/-- One passes as a multiple of a billion, and `2 ^ 50` as a multiple of three. -/
theorem Schema.near_multiples_pass :
    let multipleOf := fun d => (leaf .number {}).attach (Check.multipleOf (ofInt d))
    let x := Value.number (ofInt 1)
    let y := Value.number (ofInt 1125899906842624)
    ¬ (1000000000 : Int) ∣ 1 ∧ (multipleOf 1000000000).safeParse {} x [] = (.ok x, []) ∧
    ¬ (3 : Int) ∣ 1125899906842624 ∧ (multipleOf 3).safeParse {} y [] = (.ok y, []) := by
  intro multipleOf x y
  have hone : (ofInt 1).isNaN = false := by decide +kernel
  have hpower : (ofInt 1125899906842624).isNaN = false := by decide +kernel
  exact ⟨by norm_num, (multipleOf_eq_ok_iff hone _ _ _).mpr (by decide +kernel), by norm_num,
    (multipleOf_eq_ok_iff hpower _ _ _).mpr (by decide +kernel)⟩

end SchemaEngine
