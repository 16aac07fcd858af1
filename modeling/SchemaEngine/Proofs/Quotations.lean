import SchemaEngine.Text.Hexadecimal
import SchemaEngine.Text.Quoted

/-!
# Quoted texts can be read back

What stands for one character of a quoted text can be told wherever it stands
(`charOf_quotedChar`), and none of it is mistaken for the closing mark.  So a quoted text tells
the text, and where it ends (`quoted_append_inj`).  Which characters are shown as they are does
not matter for this.
-/

namespace SchemaEngine
namespace Text

/-! ## Hexadecimal digits -/

/-- The number that a run of hexadecimal digits spells. -/
def ofHexDigits (cs : List Char) : Nat := cs.foldl (fun n c => 16 * n + hexValue c) 0

theorem digitChar_spec : ∀ d < 16, isHexDigit d.digitChar = true ∧ hexValue d.digitChar = d := by
  decide

theorem isHexDigit_of_mem_toDigits (n : Nat) : ∀ c ∈ Nat.toDigits 16 n, isHexDigit c = true := by
  induction n using Nat.strongRecOn with
  | ind n ih =>
    intro c hc
    rcases Nat.lt_or_ge n 16 with hsmall | hlarge
    · rw [Nat.toDigits_of_lt_base hsmall, List.mem_singleton] at hc
      exact hc ▸ (digitChar_spec n hsmall).1
    · rw [Nat.toDigits_of_base_le (by omega) hlarge, List.mem_append, List.mem_singleton] at hc
      rcases hc with hc | rfl
      · exact ih (n / 16) (by omega) c hc
      · exact (digitChar_spec (n % 16) (by omega)).1

theorem ofHexDigits_toDigits (n : Nat) : ofHexDigits (Nat.toDigits 16 n) = n := by
  induction n using Nat.strongRecOn with
  | ind n ih =>
    rcases Nat.lt_or_ge n 16 with hsmall | hlarge
    · rw [Nat.toDigits_of_lt_base hsmall]
      simp [ofHexDigits, (digitChar_spec n hsmall).2]
    · have hrest := ih (n / 16) (by omega)
      have hlast := (digitChar_spec (n % 16) (by omega)).2
      rw [ofHexDigits] at hrest
      rw [Nat.toDigits_of_base_le (by omega) hlarge, ofHexDigits, List.foldl_append, hrest,
        List.foldl_cons, List.foldl_nil, hlast]
      omega

/-! ## Characters -/

/-- The character that a quoted text begins with. -/
def charOf : List Char → Char
  | '\\' :: 'u' :: '\x7b' :: x => Char.ofNat (ofHexDigits (x.takeWhile isHexDigit))
  | '\\' :: 'n' :: _ => '\n'
  | '\\' :: 'r' :: _ => '\r'
  | '\\' :: 't' :: _ => '\t'
  | '\\' :: '0' :: _ => '\x00'
  | '\\' :: c :: _ => c
  | c :: _ => c
  | [] => '\x00'

/-- What stands for a character in a quoted text: a sign behind a backslash, the character, or
its number. -/
theorem quotedChar_cases (c : Char) :
    (∃ d, quotedChar c = ['\\', d] ∧ ∀ x, charOf ('\\' :: d :: x) = c) ∨
      c ∉ ['"', '\\'] ∧ quotedChar c = [c] ∨
      quotedChar c = '\\' :: 'u' :: '\x7b' :: (Nat.toDigits 16 c.toNat ++ ['\x7d']) := by
  by_cases hmark : c = '"'
  · exact .inl ⟨'"', by subst hmark; exact ⟨rfl, fun _ => rfl⟩⟩
  by_cases hslash : c = '\\'
  · exact .inl ⟨'\\', by subst hslash; exact ⟨rfl, fun _ => rfl⟩⟩
  by_cases hline : c = '\n'
  · exact .inl ⟨'n', by subst hline; exact ⟨rfl, fun _ => rfl⟩⟩
  by_cases hreturn : c = '\r'
  · exact .inl ⟨'r', by subst hreturn; exact ⟨rfl, fun _ => rfl⟩⟩
  by_cases htab : c = '\t'
  · exact .inl ⟨'t', by subst htab; exact ⟨rfl, fun _ => rfl⟩⟩
  by_cases hnull : c = '\x00'
  · exact .inl ⟨'0', by subst hnull; exact ⟨rfl, fun _ => rfl⟩⟩
  simp only [quotedChar, if_neg hmark, if_neg hslash, if_neg hline, if_neg hreturn, if_neg htab,
    if_neg hnull]
  split
  · exact .inr (.inl ⟨by simp [hmark, hslash], rfl⟩)
  · exact .inr (.inr rfl)

theorem charOf_quotedChar (c : Char) (x : List Char) : charOf (quotedChar c ++ x) = c := by
  rcases quotedChar_cases c with ⟨d, htext, hread⟩ | ⟨hplain, htext⟩ | htext <;> rw [htext]
  · exact hread x
  · have hslash : c ≠ '\\' := by
      rintro rfl
      simp at hplain
    rw [List.singleton_append, charOf] <;> simp [hslash]
  · have hdigits : (Nat.toDigits 16 c.toNat ++ ['\x7d'] ++ x).takeWhile isHexDigit =
        Nat.toDigits 16 c.toNat := by
      rw [List.append_assoc, List.takeWhile_append_of_pos (isHexDigit_of_mem_toDigits _),
        List.singleton_append, List.takeWhile_cons_of_neg (by decide), List.append_nil]
    rw [List.cons_append, List.cons_append, List.cons_append, charOf, hdigits,
      ofHexDigits_toDigits, Char.ofNat_toNat]

/-- What stands for a character does not begin like the end of a quoted text. -/
theorem quotedChar_ne_mark (c : Char) (x y : List Char) : quotedChar c ++ x ≠ '"' :: y := by
  rcases quotedChar_cases c with ⟨d, htext, -⟩ | ⟨hplain, htext⟩ | htext <;> rw [htext]
  · simp
  · rintro ⟨⟩
    simp at hplain
  · simp

theorem flatMap_quotedChar_inj {cs ds x y : List Char}
    (h : cs.flatMap quotedChar ++ '"' :: x = ds.flatMap quotedChar ++ '"' :: y) :
    cs = ds ∧ x = y := by
  induction cs generalizing ds with
  | nil =>
    cases ds with
    | nil => exact ⟨rfl, (List.cons.inj h).2⟩
    | cons d ds =>
      rw [List.flatMap_cons, List.append_assoc] at h
      exact absurd h.symm (quotedChar_ne_mark d _ _)
  | cons c cs ih =>
    rw [List.flatMap_cons, List.append_assoc] at h
    cases ds with
    | nil => exact absurd h (quotedChar_ne_mark c _ _)
    | cons d ds =>
      rw [List.flatMap_cons, List.append_assoc] at h
      have hchar := congrArg charOf h
      rw [charOf_quotedChar, charOf_quotedChar] at hchar
      subst hchar
      obtain ⟨rfl, hrest⟩ := ih (List.append_cancel_left h)
      exact ⟨rfl, hrest⟩

/-- **A quoted text tells the text**, and what follows it. -/
theorem quoted_append_inj {s t : String} {x y : List Char}
    (h : (quoted s).toList ++ x = (quoted t).toList ++ y) : s = t ∧ x = y := by
  have htext : ∀ (r : String) (z : List Char), (quoted r).toList ++ z =
      '"' :: (r.toList.flatMap quotedChar ++ '"' :: z) := by
    intro r z
    simp [quoted]
  rw [htext, htext] at h
  obtain ⟨hchars, hrest⟩ := flatMap_quotedChar_inj (List.cons.inj h).2
  exact ⟨String.toList_inj.mp hchars, hrest⟩

end Text
end SchemaEngine
