import SchemaEngine.Proofs.Rounding

/-!
# Doubles that stand for integers

Every integer of at most `2 ^ 53` in size has a double of its own, and up to there the
arithmetic of doubles is that of integers: a product or a difference that stays in the range
is not rounded at all.
-/

namespace SchemaEngine
namespace Double

attribute [local irreducible] one

/-- Below `2 ^ 54` every even integer has a double. -/
theorem representable_even {n : Nat} (h : n < 2 ^ 53) : Representable (2 * n * one) := by
  have htwo : 2 * one = 2 ^ 1075 := by decide +kernel
  rw [mul_comm 2, mul_assoc, htwo]
  exact representable_mul_two_pow h (by norm_num)

theorem representable_whole {n : Nat} (h : n ≤ 2 ^ 53) : Representable (n * one) := by
  rcases h.eq_or_lt with rfl | hlt
  · exact representable_even (n := 2 ^ 52) (by norm_num)
  · rw [one_eq_two_pow]
    exact representable_mul_two_pow hlt (by norm_num)

theorem natAbs_signed (negative : Bool) (u : Nat) : (signed negative u).natAbs = u := by
  cases negative <;> simp only [signed] <;> omega

theorem signed_natAbs (n : Int) : signed (n < 0) n.natAbs = n := by
  rcases lt_or_ge n 0 with hn | hn
  · rw [signed, if_pos (decide_eq_true hn)]
    omega
  · rw [signed, if_neg (by simpa using hn)]
    omega

theorem wholeNumber?_eq_some_iff {x : Double} {n : Int} :
    x.wholeNumber? = some n ↔
      ∃ negative h, x = .finite negative (n.natAbs * one) h ∧ signed negative n.natAbs = n := by
  cases x with
  | finite s u h =>
    simp only [wholeNumber?]
    split
    · next hwhole =>
      have hu : u / one * one = u := Nat.div_mul_cancel (Nat.dvd_of_mod_eq_zero hwhole)
      constructor
      · intro hn
        obtain rfl := Option.some.inj hn
        rw [natAbs_signed]
        exact ⟨s, hu.symm ▸ h, by simp only [hu], rfl⟩
      · rintro ⟨t, _, heq, hn⟩
        obtain ⟨rfl, rfl⟩ := finite.inj heq
        rw [Nat.mul_div_cancel _ one_pos, hn]
    · next hwhole =>
      refine iff_of_false (by simp) ?_
      rintro ⟨t, _, heq, -⟩
      obtain ⟨-, rfl⟩ := finite.inj heq
      exact hwhole (Nat.mul_mod_left _ _)
  | _ => simp [wholeNumber?]

theorem exactInteger?_eq_some_iff {x : Double} {n : Int} :
    x.exactInteger? = some n ↔ x.wholeNumber? = some n ∧ n.natAbs < 2 ^ 53 := by
  unfold exactInteger?
  cases x.wholeNumber? with
  | none => simp
  | some m =>
    simp only [Nat.pow_eq, Option.some.injEq]
    split
    · next hm => exact ⟨fun h => by cases h; exact ⟨rfl, hm⟩, fun h => by rw [h.1]⟩
    · next hm =>
      refine iff_of_false (by simp) ?_
      rintro ⟨rfl, h⟩
      exact hm h

theorem ofInt_eq {n : Int} (h : n.natAbs ≤ 2 ^ 53) :
    ofInt n = .finite (n < 0) (n.natAbs * one) (representable_whole h) :=
  ofRatio_one_of_representable _ _

/-- An integer of less than `2 ^ 53` in size is what its double stands for. -/
theorem exactInteger?_ofInt {n : Int} (h : n.natAbs < 2 ^ 53) :
    (ofInt n).exactInteger? = some n := by
  refine exactInteger?_eq_some_iff.mpr ⟨wholeNumber?_eq_some_iff.mpr ?_, h⟩
  exact ⟨_, _, ofInt_eq h.le, signed_natAbs n⟩

/-- An integer is the rounding of another: at most one off, and not at all up to `2 ^ 53`. -/
structure RoundsTo (n p : Nat) : Prop where
  upper : p ≤ n + 1
  lower : n ≤ p + 1
  same : n ≤ 2 ^ 53 → p = n

section Arithmetic
variable (s t : Bool) {m n : Nat} (hm : Representable (m * one)) (hn : Representable (n * one))

/-- The product of two integers is rounded to an integer, up to `2 ^ 54`: only every other
integer has a double in the upper half of that range. -/
theorem mul_whole (h : m * n + 1 < 2 ^ 54) :
    ∃ p hp, mul (.finite s (m * one) hm) (.finite t (n * one) hn) = .finite (s != t) (p * one) hp ∧
      RoundsTo (m * n) p := by
  have hunits : m * one * (n * one) = m * n * one * one := by ring
  have hmul : mul (.finite s (m * one) hm) (.finite t (n * one) hn) =
      ofRatio (s != t) (m * n * one * one) one := by rw [← hunits]; rfl
  rcases Nat.lt_or_ge (2 ^ 53) (m * n) with hlarge | hsmall
  · -- the even integers around the product
    have hlow := representable_even (n := m * n / 2) (by omega)
    have hhigh := representable_even (n := (m * n + 1) / 2) (by omega)
    have hle : m * n * one * one ≤ 2 * ((m * n + 1) / 2) * one * one :=
      Nat.mul_le_mul_right _ (Nat.mul_le_mul_right _ (by omega))
    have hge : 2 * (m * n / 2) * one * one ≤ m * n * one * one :=
      Nat.mul_le_mul_right _ (Nat.mul_le_mul_right _ (by omega))
    have hdvd : one ∣ rounded (m * n * one * one) one := by
      refine Nat.dvd_trans ?_ (dvd_nearestMultiple _ _ _)
      rw [Nat.mul_div_cancel _ one_pos, one_eq_two_pow]
      refine two_pow_dvd_spacing ?_
      rw [add_comm, pow_add]
      exact Nat.mul_le_mul_right _ (by omega)
    obtain ⟨p, hp⟩ := hdvd
    have hupper := rounded_le one_pos hhigh.spacing_dvd hle
    have hlower := le_rounded one_pos hlow.spacing_dvd hge
    rw [hp, mul_comm one p] at hupper hlower
    have hupper := Nat.le_of_mul_le_mul_right hupper one_pos
    have hlower := Nat.le_of_mul_le_mul_right hlower one_pos
    have hrep := representable_rounded one_pos hhigh hle
    rw [hp, mul_comm one p] at hrep
    refine ⟨p, hrep, ?_, by omega, by omega, fun h => absurd hlarge (by omega)⟩
    rw [hmul, ofRatio_eq_finite _ one_pos hhigh hle]
    simp only [hp, mul_comm one p]
  · refine ⟨m * n, representable_whole hsmall, ?_, by omega, by omega, fun _ => rfl⟩
    rw [hmul, ofRatio_of_representable]
    exact one_pos

/-- The difference of two integers of one sign is exact. -/
theorem abs_sub_whole (h : ((m : Int) - n).natAbs ≤ 2 ^ 53) :
    (sub (.finite s (m * one) hm) (.finite s (n * one) hn)).abs =
      .finite false (((m : Int) - n).natAbs * one) (representable_whole h) := by
  have hsum : signed s (m * one) + signed (!s) (n * one) =
      signed s 1 * (((m : Int) - n) * one) := by
    cases s <;> simp [signed] <;> ring
  have habs : (signed s 1 * (((m : Int) - n) * one)).natAbs = ((m : Int) - n).natAbs * one := by
    cases s <;> simp [signed, Int.natAbs_mul]
  simp only [sub, neg, add, hsum, habs]
  split
  · next hzero =>
    rw [hzero, Int.natAbs_zero] at habs
    simp only [zero, abs, ← habs]
  · rw [ofRatio_one_of_representable _ (representable_whole h), abs]

end Arithmetic

end Double
end SchemaEngine
