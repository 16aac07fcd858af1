import Mathlib.Computability.Language
import SchemaEngine.Proofs.Matching

/-!
# Languages of patterns

A pattern without anchors does not look at what stands around a piece of text.  It has a
language, and it matches exactly the pieces that belong to it (`matches_iff_of_anchorless`).
Between an anchor at the beginning of the text and one at the end, patterns of this kind match
the text as a whole (`occursIn_framed_iff`), so all that is left of a search is whether a text
belongs to a product of languages.
-/

namespace SchemaEngine
namespace Pattern

open Place

/-- No anchor stands in the pattern. -/
def Anchorless : Pattern → Prop
  | .empty => True
  | .char _ => True
  | .anchor _ => False
  | .seq p q => p.Anchorless ∧ q.Anchorless
  | .alt p q => p.Anchorless ∧ q.Anchorless
  | .repeated _ _ p => p.Anchorless

/-- The texts that a pattern without anchors stands for. -/
def language : Pattern → Language Char
  | .empty => 1
  | .char p => {x | ∃ c, p c = true ∧ x = [c]}
  | .anchor _ => 0
  | .seq p q => p.language * q.language
  | .alt p q => p.language + q.language
  | .repeated least greatest p =>
    {x | ∃ n, least ≤ n ∧ (∀ m, greatest = some m → n ≤ m) ∧ x ∈ p.language ^ n}

section Language
variable {p q : Pattern} {a b c : Place} {x : List Char} {least n : Nat} {greatest : Option Nat}

theorem mem_language_char {p : Char → Bool} :
    x ∈ (char p).language ↔ ∃ c, p c = true ∧ x = [c] := Iff.rfl

theorem mem_language_repeated :
    x ∈ (repeated least greatest p).language ↔
      ∃ n, least ≤ n ∧ (∀ m, greatest = some m → n ≤ m) ∧ x ∈ p.language ^ n := Iff.rfl

theorem rounds_iff_mem_pow {L : Language Char}
    (h : ∀ a b, Matches p a b ↔ ∃ x ∈ L, a.Leads x b) (n : Nat) :
    Rounds (Matches p) n a b ↔ ∃ x ∈ L ^ n, a.Leads x b := by
  induction n generalizing a with
  | zero => simp [rounds_zero_iff, Language.mem_one]
  | succ n ih =>
    simp only [rounds_succ_iff, h, ih, pow_succ', Language.mem_mul]
    constructor
    · rintro ⟨c, ⟨x, hx, hac⟩, y, hy, hcb⟩
      exact ⟨x ++ y, ⟨x, hx, y, hy, rfl⟩, hac.trans hcb⟩
    · rintro ⟨_, ⟨x, hx, y, hy, rfl⟩, hab⟩
      obtain ⟨c, hac, hcb⟩ := hab.between
      exact ⟨c, ⟨x, hx, hac⟩, y, hy, hcb⟩

/-- A pattern without anchors matches the pieces of text of its language. -/
theorem matches_iff_of_anchorless (h : p.Anchorless) :
    Matches p a b ↔ ∃ x ∈ p.language, a.Leads x b := by
  induction p generalizing a b with
  | empty => simp [matches_empty_iff, language, Language.mem_one]
  | char p =>
    simp only [matches_char_iff, step?_eq_some_iff, mem_language_char]
    constructor
    · rintro ⟨ch, hp, hab⟩
      exact ⟨[ch], ⟨ch, hp, rfl⟩, hab⟩
    · rintro ⟨_, ⟨ch, hp, rfl⟩, hab⟩
      exact ⟨ch, hp, hab⟩
  | anchor k => exact h.elim
  | seq p q ihp ihq =>
    simp only [matches_seq_iff, ihp h.1, ihq h.2, language, Language.mem_mul]
    constructor
    · rintro ⟨c, ⟨x, hx, hac⟩, y, hy, hcb⟩
      exact ⟨x ++ y, ⟨x, hx, y, hy, rfl⟩, hac.trans hcb⟩
    · rintro ⟨_, ⟨x, hx, y, hy, rfl⟩, hab⟩
      obtain ⟨c, hac, hcb⟩ := hab.between
      exact ⟨c, ⟨x, hx, hac⟩, y, hy, hcb⟩
  | alt p q ihp ihq =>
    simp only [matches_alt_iff, ihp h.1, ihq h.2, language, Language.mem_add, or_and_right,
      exists_or]
  | repeated least greatest p ih =>
    have hp : ∀ a b, Matches p a b ↔ ∃ x ∈ p.language, a.Leads x b := fun a b => ih h
    simp only [matches_repeated_iff, rounds_iff_mem_pow hp, mem_language_repeated]
    constructor
    · rintro ⟨n, hleast, hgreatest, x, hx, hab⟩
      exact ⟨x, ⟨n, hleast, hgreatest, hx⟩, hab⟩
    · rintro ⟨x, ⟨n, hleast, hgreatest, hx⟩, hab⟩
      exact ⟨n, hleast, hgreatest, x, hx, hab⟩

end Language

/-! ## Patterns one after the other -/

section Lists
variable {p : Pattern} {ps qs : List Pattern} {a b c : Place}

theorem matches_seqAll_cons_iff :
    Matches (seqAll (p :: ps)) a c ↔ ∃ b, Matches p a b ∧ Matches (seqAll ps) b c := by
  cases ps with
  | nil => simp [seqAll, matches_empty_iff]
  | cons q ps => exact matches_seq_iff

theorem matches_seqAll_append_iff :
    Matches (seqAll (ps ++ qs)) a c ↔ ∃ b, Matches (seqAll ps) a b ∧ Matches (seqAll qs) b c := by
  induction ps generalizing a with
  | nil => simp [seqAll, matches_empty_iff]
  | cons p ps ih =>
    simp only [List.cons_append, matches_seqAll_cons_iff, ih]
    constructor
    · rintro ⟨x, hx, b, hb, hc⟩
      exact ⟨b, ⟨x, hx, hb⟩, hc⟩
    · rintro ⟨b, ⟨x, hx, hb⟩, hc⟩
      exact ⟨x, hx, b, hb, hc⟩

theorem anchorless_seqAll (h : ∀ p ∈ ps, p.Anchorless) : (seqAll ps).Anchorless := by
  induction ps with
  | nil => trivial
  | cons p ps ih =>
    obtain ⟨hp, hps⟩ := List.forall_mem_cons.mp h
    cases ps with
    | nil => exact hp
    | cons q ps => exact ⟨hp, ih hps⟩

theorem language_seqAll (ps : List Pattern) : (seqAll ps).language = (ps.map language).prod := by
  induction ps with
  | nil => rfl
  | cons p ps ih =>
    cases ps with
    | nil => simp [seqAll]
    | cons q ps => rw [List.map_cons, List.prod_cons, ← ih]; rfl

/-- Only the beginning of a text has no character before it. -/
theorem eq_start_of_textStart {cs : List Char} (ha : a ∈ all cs)
    (h : a.allowedBy .textStart = true) : a = start cs := by
  obtain ⟨x, hx⟩ := mem_all.mp ha
  have hbefore : a.before = none := Option.isNone_iff_eq_none.mp h
  rw [hx.before, Option.or_eq_none_iff, List.getLast?_eq_none_iff] at hbefore
  obtain ⟨rfl, -⟩ := hbefore
  exact (leads_nil_iff.mp hx).symm

/-- **Between the two anchors of a text** patterns without anchors match the text as a whole. -/
theorem occursIn_framed_iff (ps : List Pattern) (h : ∀ p ∈ ps, p.Anchorless) (s : String) :
    (seqAll (.anchor .textStart :: (ps ++ [.anchor .textEnd]))).occursIn s = true ↔
      s.toList ∈ (ps.map language).prod := by
  rw [occursIn_iff, ← language_seqAll]
  simp only [matches_seqAll_cons_iff, matches_seqAll_append_iff, matches_anchor_iff,
    matches_iff_of_anchorless (anchorless_seqAll h)]
  constructor
  · rintro ⟨a, ha, b, _, ⟨hstart, rfl⟩, c, ⟨x, hx, hac⟩, _, ⟨hend, rfl⟩, -⟩
    obtain rfl := eq_start_of_textStart ha hstart
    have hafter : s.toList = x ++ c.after := hac.after
    have hend : c.after = [] := List.isEmpty_iff.mp hend
    rw [hafter, hend, List.append_nil]
    exact hx
  · intro hs
    let a := start s.toList
    let c : Place := ⟨0 + s.toList.length, s.toList.getLast?.or none, []⟩
    have hac : a.Leads s.toList c := ⟨(List.append_nil _).symm, rfl, rfl⟩
    exact ⟨a, mem_all.mpr ⟨[], leads_refl _⟩, c, a, ⟨rfl, rfl⟩, c, ⟨_, hs, hac⟩, c, ⟨rfl, rfl⟩,
      .empty c⟩

end Lists

/-! ## Classes of characters -/

section Chars
variable {p : Char → Bool} {x : List Char} {least n : Nat} {greatest : Option Nat}

theorem mem_language_char_pow :
    x ∈ (char p).language ^ n ↔ x.length = n ∧ ∀ c ∈ x, p c = true := by
  induction n generalizing x with
  | zero =>
    rw [pow_zero, Language.mem_one, List.length_eq_zero_iff]
    constructor
    · rintro rfl
      exact ⟨rfl, by simp⟩
    · exact And.left
  | succ n ih =>
    simp only [pow_succ', Language.mem_mul, mem_language_char, ih]
    constructor
    · rintro ⟨_, ⟨c, hc, rfl⟩, y, ⟨rfl, hy⟩, rfl⟩
      exact ⟨rfl, List.forall_mem_cons.mpr ⟨hc, hy⟩⟩
    · rintro ⟨hlength, hx⟩
      cases x with
      | nil => cases hlength
      | cons c y =>
        obtain ⟨hc, hy⟩ := List.forall_mem_cons.mp hx
        exact ⟨[c], ⟨c, hc, rfl⟩, y, ⟨Nat.succ.inj hlength, hy⟩, rfl⟩

/-- A repeated class stands for texts of characters of the class, of the lengths that the
bounds allow. -/
theorem mem_language_repeated_char :
    x ∈ (repeated least greatest (char p)).language ↔
      least ≤ x.length ∧ (∀ m, greatest = some m → x.length ≤ m) ∧ ∀ c ∈ x, p c = true := by
  simp only [mem_language_repeated, mem_language_char_pow]
  constructor
  · rintro ⟨_, hleast, hgreatest, rfl, hx⟩
    exact ⟨hleast, hgreatest, hx⟩
  · rintro ⟨hleast, hgreatest, hx⟩
    exact ⟨x.length, hleast, hgreatest, rfl, hx⟩

theorem mem_language_plus_char :
    x ∈ (plus (char p)).language ↔ x ≠ [] ∧ ∀ c ∈ x, p c = true := by
  simp [plus, mem_language_repeated_char, Nat.one_le_iff_ne_zero]

theorem mem_language_star_char : x ∈ (star (char p)).language ↔ ∀ c ∈ x, p c = true := by
  simp [star, mem_language_repeated_char]

theorem mem_language_times_char :
    x ∈ (times n (char p)).language ↔ x.length = n ∧ ∀ c ∈ x, p c = true := by
  rw [times, mem_language_repeated_char]
  constructor
  · rintro ⟨hleast, hgreatest, hx⟩
    exact ⟨Nat.le_antisymm (hgreatest n rfl) hleast, hx⟩
  · rintro ⟨rfl, hx⟩
    refine ⟨Nat.le_refl _, ?_, hx⟩
    rintro m ⟨⟩
    exact Nat.le_refl _

theorem mem_language_literal {c : Char} : x ∈ (literal c).language ↔ x = [c] := by
  simp [literal, mem_language_char]

theorem mem_language_opt_literal {c : Char} :
    x ∈ (opt (literal c)).language ↔ x = [] ∨ x = [c] := by
  rw [opt, literal, mem_language_repeated_char]
  constructor
  · rintro ⟨-, hlength, hx⟩
    match x, hlength 1 rfl with
    | [], _ => exact .inl rfl
    | [d], _ => exact .inr (by simpa using hx)
  · rintro (rfl | rfl) <;> simp

theorem mem_language_literals {cs : List Char} :
    x ∈ (seqAll (cs.map literal)).language ↔ x = cs := by
  rw [language_seqAll]
  induction cs generalizing x with
  | nil => exact Language.mem_one x
  | cons c cs ih =>
    simp only [List.map_cons, List.prod_cons, Language.mem_mul, mem_language_literal, ih]
    simp [eq_comm]

/-- Groups of characters of a class, of given lengths, with one character between each two. -/
theorem mem_prod_groups {c : Char} {ns : List Nat} :
    x ∈ (((ns.map fun n => times n (char p)).intersperse (literal c)).map language).prod ↔
      ∃ groups : List (List Char), groups.map List.length = ns ∧
        (∀ g ∈ groups, ∀ d ∈ g, p d = true) ∧ x = [c].intercalate groups := by
  induction ns generalizing x with
  | nil => simp [Language.mem_one]
  | cons n ns ih =>
    cases ns with
    | nil =>
      simp only [List.map_cons, List.map_nil, List.intersperse_singleton, List.prod_cons,
        List.prod_nil, mul_one, mem_language_times_char]
      constructor
      · rintro ⟨hlength, hx⟩
        exact ⟨[x], by simp [hlength], by simpa using hx, by simp⟩
      · rintro ⟨groups, hlengths, hgroups, rfl⟩
        obtain ⟨g, rest, rfl, hg, hrest⟩ := List.map_eq_cons_iff.mp hlengths
        obtain rfl := List.map_eq_nil_iff.mp hrest
        simpa using ⟨hg, hgroups g (by simp)⟩
    | cons m ns =>
      have hlist : ((n :: m :: ns).map fun n => times n (char p)).intersperse (literal c) =
          times n (char p) :: literal c ::
            ((m :: ns).map fun n => times n (char p)).intersperse (literal c) := rfl
      rw [hlist, List.map_cons, List.map_cons, List.prod_cons, List.prod_cons]
      simp only [Language.mem_mul, mem_language_times_char, mem_language_literal, ih]
      constructor
      · rintro ⟨g, ⟨hlength, hg⟩, _, ⟨_, rfl, _, ⟨groups, hlengths, hgroups, rfl⟩, rfl⟩, rfl⟩
        obtain ⟨h, rest, rfl, -, -⟩ := List.map_eq_cons_iff.mp hlengths
        exact ⟨g :: h :: rest, by rw [List.map_cons, hlength, hlengths],
          List.forall_mem_cons.mpr ⟨hg, hgroups⟩,
          by rw [List.intercalate_cons_cons, List.append_assoc]⟩
      · rintro ⟨groups, hlengths, hgroups, rfl⟩
        obtain ⟨g, groups, rfl, hlength, hlengths⟩ := List.map_eq_cons_iff.mp hlengths
        obtain ⟨hg, hgroups⟩ := List.forall_mem_cons.mp hgroups
        obtain ⟨h, rest, rfl, -, -⟩ := List.map_eq_cons_iff.mp hlengths
        exact ⟨g, ⟨hlength, hg⟩, _, ⟨_, rfl, _, ⟨h :: rest, hlengths, hgroups, rfl⟩, rfl⟩,
          by rw [List.intercalate_cons_cons, List.append_assoc]⟩

end Chars

end Pattern
end SchemaEngine
