import Mathlib.Tactic.Linarith
import Mathlib.Tactic.Ring
import SchemaEngine.Number.Double

/-!
# Rounding

`Double.rounded` is the number of units that an exact quotient is rounded to.  What the
arithmetic needs of it is that rounding keeps to the side of every number of units that
exists: a quotient at or above such a number stays there (`le_rounded`), and so does one at
or below it (`rounded_le`).  A quotient that exists is therefore its own rounding, and one
between two neighbours goes to one of them.  Where the side does not decide, the error does:
it is at most half the gap between neighbours (`two_mul_rounded_le`).
-/

namespace SchemaEngine
namespace Double

/-! ## The gap between neighbours -/

theorem one_pos : 0 < one := by decide +kernel

theorem one_eq_two_pow : one = 2 ^ 1074 := by decide +kernel

theorem bound_eq_two_pow : bound = 2 ^ 2098 := by decide +kernel

-- numbers of more than three hundred digits, which no proof below computes with
attribute [local irreducible] one bound

theorem one_eq {j k : Nat} (h : j + k = 1074) : one = 2 ^ j * 2 ^ k := by
  rw [one_eq_two_pow, ← pow_add, h]

theorem two_pow_le_one {k : Nat} (h : k ≤ 1074) : 2 ^ k ≤ one := by
  obtain ⟨j, hj⟩ := Nat.exists_eq_add_of_le h
  rw [one_eq hj.symm]
  exact Nat.le_mul_of_pos_right _ (Nat.two_pow_pos j)

theorem spacing_pos (u : Nat) : 0 < spacing u := Nat.two_pow_pos _

theorem log2_le_of_lt {u k : Nat} (h : u < 2 ^ (k + 1)) : u.log2 ≤ k := by
  rcases Nat.eq_zero_or_pos u with rfl | hu
  · exact Nat.zero_le _
  · exact Nat.lt_succ_iff.mp ((Nat.log2_lt hu.ne').mpr h)

theorem log2_le_log2 {u w : Nat} (h : u ≤ w) : u.log2 ≤ w.log2 :=
  log2_le_of_lt (h.trans_lt Nat.lt_log2_self)

theorem spacing_dvd_spacing {u w : Nat} (h : u ≤ w) : spacing u ∣ spacing w :=
  Nat.pow_dvd_pow 2 (Nat.sub_le_sub_right (log2_le_log2 h) 52)

theorem spacing_dvd_two_pow {u k : Nat} (h : u.log2 ≤ k) : spacing u ∣ 2 ^ k :=
  Nat.pow_dvd_pow 2 ((Nat.sub_le _ _).trans h)

theorem spacing_dvd_two_pow_of_lt {u k : Nat} (h : u < 2 ^ (k + 53)) : spacing u ∣ 2 ^ k :=
  Nat.pow_dvd_pow 2 (Nat.sub_le_iff_le_add.mpr (log2_le_of_lt h))

theorem spacing_le_two_pow {u k : Nat} (h : u < 2 ^ (k + 53)) : spacing u ≤ 2 ^ k :=
  Nat.le_of_dvd (Nat.two_pow_pos k) (spacing_dvd_two_pow_of_lt h)

theorem spacing_mul_le_one {u i j : Nat} (hij : i + j = 53) (h : u < one * 2 ^ j) :
    spacing u * 2 ^ i ≤ one := by
  obtain ⟨k, hk⟩ := Nat.exists_eq_add_of_le' (show i ≤ 1074 by omega)
  have hone : one = 2 ^ k * 2 ^ i := one_eq hk.symm
  rw [hone]
  refine Nat.mul_le_mul_right _ (spacing_le_two_pow ?_)
  rwa [← hij, pow_add, pow_add, ← mul_assoc, ← hone]

theorem two_pow_dvd_spacing {u k : Nat} (h : 2 ^ (k + 52) ≤ u) : 2 ^ k ∣ spacing u := by
  have hu : u ≠ 0 := (Nat.two_pow_pos _ |>.trans_le h).ne'
  have := (Nat.le_log2 hu).mpr h
  exact Nat.pow_dvd_pow 2 (by omega)

theorem spacing_mul_le {u : Nat} (h : 2 ^ 52 ≤ u) : spacing u * 2 ^ 52 ≤ u := by
  have hu : u ≠ 0 := (Nat.two_pow_pos _ |>.trans_le h).ne'
  have hlog := (Nat.le_log2 hu).mpr h
  calc spacing u * 2 ^ 52 = 2 ^ (u.log2 - 52 + 52) := (pow_add ..).symm
    _ = 2 ^ u.log2 := by rw [Nat.sub_add_cancel hlog]
    _ ≤ u := Nat.log2_self_le hu

theorem Representable.spacing_dvd {u : Nat} (h : Representable u) : spacing u ∣ u :=
  Nat.dvd_of_mod_eq_zero h.2

/-- A number of at most 53 binary digits exists. -/
theorem representable_mul_two_pow {m k : Nat} (hm : m < 2 ^ 53) (hk : k ≤ 2045) :
    Representable (m * 2 ^ k) := by
  have hlt : m * 2 ^ k < 2 ^ (k + 53) := by
    rw [add_comm, pow_add]
    exact Nat.mul_lt_mul_of_pos_right hm (Nat.two_pow_pos k)
  refine ⟨?_, ?_⟩
  · obtain ⟨j, hj⟩ := Nat.exists_eq_add_of_le (show k + 53 ≤ 2098 by omega)
    rw [bound_eq_two_pow, hj, pow_add]
    exact hlt.trans_le (Nat.le_mul_of_pos_right _ (Nat.two_pow_pos j))
  · exact Nat.mod_eq_zero_of_dvd ((spacing_dvd_two_pow_of_lt hlt).mul_left m)

/-! ## The nearest multiple -/

section NearestMultiple
variable {num den step : Nat}

/-- The nearest multiple is the one below, when at most half a step is left, or the one
above. -/
theorem nearestMultiple_cases (num den step : Nat) :
    (nearestMultiple num den step = num / (den * step) * step ∧
      2 * (num % (den * step)) ≤ den * step) ∨
    (nearestMultiple num den step = (num / (den * step) + 1) * step ∧
      den * step ≤ 2 * (num % (den * step))) := by
  unfold nearestMultiple
  dsimp only
  split
  · exact .inl ⟨rfl, by omega⟩
  · split
    · exact .inr ⟨rfl, by omega⟩
    · rcases Nat.mod_two_eq_zero_or_one (num / (den * step)) with h | h
      · exact .inl ⟨by rw [h, Nat.add_zero], by omega⟩
      · exact .inr ⟨by rw [h], by omega⟩

theorem dvd_nearestMultiple (num den step : Nat) : step ∣ nearestMultiple num den step := by
  rcases nearestMultiple_cases num den step with ⟨h, -⟩ | ⟨h, -⟩ <;>
    exact h ▸ Nat.dvd_mul_left _ _

theorem le_nearestMultiple {w : Nat} (hden : 0 < den) (hstep : 0 < step) (hdvd : step ∣ w)
    (h : w * den ≤ num) : w ≤ nearestMultiple num den step := by
  obtain ⟨k, rfl⟩ := hdvd
  have hk : k ≤ num / (den * step) := by
    rw [Nat.le_div_iff_mul_le (Nat.mul_pos hden hstep)]
    linarith
  rcases nearestMultiple_cases num den step with ⟨hn, -⟩ | ⟨hn, -⟩ <;> rw [hn, mul_comm step]
  · exact Nat.mul_le_mul_right _ hk
  · exact Nat.mul_le_mul_right _ (hk.trans (Nat.le_succ _))

theorem nearestMultiple_le {w : Nat} (hden : 0 < den) (hstep : 0 < step) (hdvd : step ∣ w)
    (h : num ≤ w * den) : nearestMultiple num den step ≤ w := by
  obtain ⟨k, rfl⟩ := hdvd
  have hpos := Nat.mul_pos hden hstep
  have hnum := Nat.div_add_mod num (den * step)
  have hle : num ≤ den * step * k := by linarith
  rcases nearestMultiple_cases num den step with ⟨hn, -⟩ | ⟨hn, hhalf⟩ <;> rw [hn, mul_comm step]
  · refine Nat.mul_le_mul_right _ (Nat.le_of_mul_le_mul_left ?_ hpos)
    omega
  · -- something is left above the multiple below, so `k` is not that one
    refine Nat.mul_le_mul_right _ (Nat.lt_of_mul_lt_mul_left (a := den * step) ?_)
    omega

theorem two_mul_nearestMultiple_le (num den step : Nat) :
    2 * (nearestMultiple num den step * den) ≤ 2 * num + den * step := by
  have hnum := Nat.div_add_mod num (den * step)
  have hmul : ∀ k, k * step * den = den * step * k := fun k => by ring
  rcases nearestMultiple_cases num den step with ⟨hn, -⟩ | ⟨hn, hhalf⟩ <;> rw [hn, hmul]
  · omega
  · rw [mul_add_one]
    omega

end NearestMultiple

/-! ## Rounding a quotient -/

/-- The number of units that `num / den` units are rounded to. -/
def rounded (num den : Nat) : Nat := nearestMultiple num den (spacing (num / den))

section Rounded
variable {num den w : Nat}

theorem le_rounded (hden : 0 < den) (hw : spacing w ∣ w) (h : w * den ≤ num) :
    w ≤ rounded num den := by
  have hle : w ≤ num / den := (Nat.le_div_iff_mul_le hden).mpr h
  rcases Nat.eq_zero_or_pos w with rfl | hpos
  · exact Nat.zero_le _
  · have hlog := log2_le_log2 hle
    rcases hlog.eq_or_lt with heq | hlt
    · refine le_nearestMultiple hden (spacing_pos _) ?_ h
      rw [spacing, ← heq]
      exact hw
    · -- the power of two that the quotient begins with lies between the two
      have hpow : w ≤ 2 ^ (num / den).log2 :=
        (Nat.lt_log2_self.trans_le (Nat.pow_le_pow_right two_pos hlt)).le
      have hquot : 2 ^ (num / den).log2 ≤ num / den := Nat.log2_self_le (by omega)
      refine hpow.trans (le_nearestMultiple hden (spacing_pos _) (spacing_dvd_two_pow le_rfl) ?_)
      exact (Nat.mul_le_mul_right _ hquot).trans (Nat.div_mul_le_self _ _)

theorem rounded_le (hden : 0 < den) (hw : spacing w ∣ w) (h : num ≤ w * den) :
    rounded num den ≤ w := by
  have hle : num / den ≤ w := Nat.div_le_of_le_mul (by linarith)
  exact nearestMultiple_le hden (spacing_pos _) ((spacing_dvd_spacing hle).trans hw) h

theorem rounded_of_representable (hden : 0 < den) (hw : Representable w) :
    rounded (w * den) den = w :=
  le_antisymm (rounded_le hden hw.spacing_dvd le_rfl) (le_rounded hden hw.spacing_dvd le_rfl)

theorem two_mul_rounded_le (num den : Nat) :
    2 * (rounded num den * den) ≤ 2 * num + den * spacing (num / den) :=
  two_mul_nearestMultiple_le _ _ _

/-- A quotient that is not above a double is rounded to a double. -/
theorem representable_rounded (hden : 0 < den) (hw : Representable w) (h : num ≤ w * den) :
    Representable (rounded num den) := by
  refine ⟨(rounded_le hden hw.spacing_dvd h).trans_lt hw.1, Nat.mod_eq_zero_of_dvd ?_⟩
  -- the quotient does not leave the powers of two that it lies between
  have htop : rounded num den ≤ 2 ^ ((num / den).log2 + 1) := by
    refine rounded_le hden (spacing_dvd_two_pow (Nat.log2_two_pow.le)) ?_
    have := Nat.lt_mul_of_div_lt (Nat.lt_log2_self (n := num / den)) hden
    linarith
  rcases htop.eq_or_lt with heq | hlt
  · rw [heq]
    exact spacing_dvd_two_pow Nat.log2_two_pow.le
  · have hlog := Nat.sub_le_sub_right (log2_le_of_lt hlt) 52
    exact (Nat.pow_dvd_pow 2 hlog).trans (dvd_nearestMultiple num den (spacing (num / den)))

theorem ofUnits_of_representable (negative : Bool) (hw : Representable w) :
    ofUnits negative w = .finite negative w hw :=
  dif_pos hw

theorem ofRatio_eq_finite (negative : Bool) (hden : 0 < den) (hw : Representable w)
    (h : num ≤ w * den) :
    ofRatio negative num den =
      .finite negative (rounded num den) (representable_rounded hden hw h) :=
  ofUnits_of_representable negative (representable_rounded hden hw h)

theorem ofRatio_of_representable (negative : Bool) (hden : 0 < den) (hw : Representable w) :
    ofRatio negative (w * den) den = .finite negative w hw := by
  rw [ofRatio_eq_finite negative hden hw le_rfl]
  congr 1
  exact rounded_of_representable hden hw

end Rounded

end Double
end SchemaEngine
