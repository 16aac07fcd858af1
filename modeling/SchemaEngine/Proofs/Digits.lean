import Mathlib.Algebra.Group.Nat.Defs
import SchemaEngine.Number.Decimal

/-!
# Runs of digits

A run of decimal digits ends where no digit follows (`NoDigitNext`), so a text that begins with
one can be taken apart there (`takeWhile_digits`, `dropWhile_digits`), and only there
(`append_digits_inj`).  The digits of a number read as this number (`ofDigits_toDigits`), and
zeros in front of them do not count.
-/

namespace SchemaEngine
namespace Text

/-- The next character, if there is one, is no digit. -/
def NoDigitNext (x : List Char) : Prop := ∀ c ∈ x.head?, c.isDigit = false

theorem noDigitNext_nil : NoDigitNext [] := by rintro c ⟨⟩

theorem noDigitNext_cons {c : Char} (h : c.isDigit = false) (x : List Char) :
    NoDigitNext (c :: x) := by
  rintro _ ⟨⟩
  exact h

section Runs
variable {ds es x y : List Char}

theorem takeWhile_digits (digits : ∀ c ∈ ds, c.isDigit = true) (next : NoDigitNext x) :
    (ds ++ x).takeWhile Char.isDigit = ds := by
  rw [List.takeWhile_append_of_pos digits]
  cases x with
  | nil => exact List.append_nil ds
  | cons c rest =>
    rw [List.takeWhile_cons_of_neg (Bool.eq_false_iff.mp (next c rfl)), List.append_nil]

theorem dropWhile_digits (digits : ∀ c ∈ ds, c.isDigit = true) (next : NoDigitNext x) :
    (ds ++ x).dropWhile Char.isDigit = x := by
  rw [List.dropWhile_append_of_pos digits]
  cases x with
  | nil => rfl
  | cons c rest => exact List.dropWhile_cons_of_neg (Bool.eq_false_iff.mp (next c rfl))

/-- Two texts that begin with runs of digits are the same in the runs and behind them. -/
theorem append_digits_inj (hds : ∀ c ∈ ds, c.isDigit = true) (hes : ∀ c ∈ es, c.isDigit = true)
    (hx : NoDigitNext x) (hy : NoDigitNext y) (h : ds ++ x = es ++ y) : ds = es ∧ x = y := by
  have hruns : ds = es := by rw [← takeWhile_digits hds hx, h, takeWhile_digits hes hy]
  subst hruns
  exact ⟨rfl, List.append_cancel_left h⟩

end Runs

theorem isDigit_of_mem_toDigits {n : Nat} : ∀ c ∈ Nat.toDigits 10 n, c.isDigit = true :=
  fun _ hc => Nat.isDigit_of_mem_toDigits (by omega) (by omega) hc

theorem toList_toString (n : Nat) : (toString n).toList = Nat.toDigits 10 n := Nat.toList_repr

end Text

namespace Decimal

theorem ofDigits_eq (cs : List Char) : ofDigits cs = Nat.ofDigitChars 10 cs 0 :=
  Nat.ofDigitChars_eq_foldl.symm

theorem ofDigits_toDigits (n : Nat) : ofDigits (Nat.toDigits 10 n) = n := by
  rw [ofDigits_eq, Nat.ofDigitChars_ten_toDigits]

theorem ofDigits_append_zeros (ds : List Char) (k : Nat) :
    ofDigits (ds ++ List.replicate k '0') = ofDigits ds * 10 ^ k := by
  rw [ofDigits_eq, ofDigits_eq, Nat.ofDigitChars_append, Nat.ofDigitChars_replicate_zero,
    Nat.mul_comm]

/-- Zeros in front do not count. -/
theorem ofDigits_zeros_append (ds : List Char) (k : Nat) :
    ofDigits (List.replicate k '0' ++ ds) = ofDigits ds := by
  rw [ofDigits_eq, ofDigits_eq, Nat.ofDigitChars_append, Nat.ofDigitChars_replicate_zero,
    Nat.mul_zero]

theorem isDigit_of_mem_zeros {k : Nat} : ∀ c ∈ List.replicate k '0', c.isDigit = true := by
  intro c hc
  rw [List.eq_of_mem_replicate hc]
  rfl

end Decimal
end SchemaEngine
