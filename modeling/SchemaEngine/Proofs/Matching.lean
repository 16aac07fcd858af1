import SchemaEngine.Proofs.Places

/-!
# Patterns find what they match

`Pattern.Matches` says which pieces of a text a pattern matches, `Pattern.ends` computes from a
set of places where the matches that begin there end, and `Pattern.occursIn` begins everywhere.
The two agree: on the sets of places of a text, `ends` follows the relation of matching
(`ends_follows`), so a pattern occurs in a text exactly when it matches a piece of it
(`occursIn_iff`).

A repetition without a bound is searched in as many rounds as the text has places.  A round of
it that matches the empty piece leads nowhere, and the others lead on, so no match needs more.
-/

namespace SchemaEngine
namespace Pattern

open Place

section Matching
variable {p q : Pattern} {a b c : Place} {cs : List Char} {least rounds : Nat}
  {greatest : Option Nat}

theorem matches_empty_iff : Matches .empty a b ↔ a = b :=
  ⟨fun h => by cases h; rfl, fun h => h ▸ .empty a⟩

theorem matches_char_iff {p : Char → Bool} : Matches (.char p) a b ↔ a.step? p = some b :=
  ⟨fun h => by cases h with | char h => exact h, .char⟩

theorem matches_anchor_iff {k : Anchor} :
    Matches (.anchor k) a b ↔ a.allowedBy k = true ∧ a = b :=
  ⟨fun h => by cases h with | anchor h => exact ⟨h, rfl⟩, fun ⟨h, hab⟩ => hab ▸ .anchor h⟩

theorem matches_seq_iff : Matches (.seq p q) a c ↔ ∃ b, Matches p a b ∧ Matches q b c :=
  ⟨fun h => by cases h with | seq hp hq => exact ⟨_, hp, hq⟩, fun ⟨_, hp, hq⟩ => .seq hp hq⟩

theorem matches_alt_iff : Matches (.alt p q) a b ↔ Matches p a b ∨ Matches q a b := by
  constructor
  · intro h
    cases h with
    | altLeft h => exact .inl h
    | altRight h => exact .inr h
  · rintro (h | h)
    · exact .altLeft h
    · exact .altRight h

/-- A repetition matches in as many rounds as its bounds allow. -/
theorem matches_repeated_iff :
    Matches (.repeated least greatest p) a b ↔
      ∃ n, least ≤ n ∧ (∀ m, greatest = some m → n ≤ m) ∧ Rounds (Matches p) n a b := by
  constructor
  · intro h
    generalize hq : Pattern.repeated least greatest p = q at h
    induction h generalizing least greatest with
    | repeatedNone a =>
      cases hq
      exact ⟨0, Nat.le_refl _, fun _ _ => Nat.zero_le _, .none a⟩
    | repeatedMore hg hp hr ihp ihr =>
      cases hq
      obtain ⟨n, hleast, hgreatest, hn⟩ := ihr rfl
      refine ⟨n + 1, by omega, ?_, .more hp hn⟩
      rintro m rfl
      have hpos : m ≠ 0 := fun h => hg (h ▸ rfl)
      have := hgreatest (m - 1) rfl
      omega
    | _ => cases hq
  · rintro ⟨n, hleast, hgreatest, hn⟩
    induction n generalizing least greatest a with
    | zero =>
      obtain rfl := rounds_zero_iff.mp hn
      obtain rfl := Nat.le_zero.mp hleast
      exact .repeatedNone a
    | succ n ih =>
      obtain ⟨x, hx, hn⟩ := rounds_succ_iff.mp hn
      refine .repeatedMore ?_ hx (ih (by omega) ?_ hn)
      · rintro rfl
        exact absurd (hgreatest 0 rfl) (Nat.not_succ_le_zero n)
      · intro m hm
        obtain ⟨g, rfl, rfl⟩ := Option.map_eq_some_iff.mp hm
        have := hgreatest g rfl
        omega

/-- What is matched is a piece of text. -/
theorem Matches.leads (h : Matches p a b) : ∃ x, a.Leads x b := by
  induction h with
  | empty a => exact ⟨[], leads_refl a⟩
  | char h =>
    obtain ⟨ch, -, h⟩ := step?_eq_some_iff.mp h
    exact ⟨[ch], h⟩
  | anchor h => exact ⟨[], leads_refl _⟩
  | seq hp hq ihp ihq =>
    obtain ⟨x, hx⟩ := ihp
    obtain ⟨y, hy⟩ := ihq
    exact ⟨x ++ y, hx.trans hy⟩
  | altLeft h ih => exact ih
  | altRight h ih => exact ih
  | repeatedNone a => exact ⟨[], leads_refl a⟩
  | repeatedMore hg hp hr ihp ihr =>
    obtain ⟨x, hx⟩ := ihp
    obtain ⟨y, hy⟩ := ihr
    exact ⟨x ++ y, hx.trans hy⟩

theorem onward_matches (p : Pattern) : Onward (Matches p) := by
  intro a b h
  obtain ⟨x, hx⟩ := h.leads
  cases x with
  | nil => exact .inl (leads_nil_iff.mp hx)
  | cons ch x =>
    have hindex := hx.index
    rw [List.length_cons] at hindex
    exact .inr (by omega)

theorem Matches.mem_all (h : Matches p a b) (ha : a ∈ all cs) : b ∈ all cs := by
  obtain ⟨x, hx⟩ := h.leads
  exact hx.mem_all ha

theorem mem_all_of_rounds {n : Nat} (h : Rounds (Matches p) n a b) (ha : a ∈ all cs) :
    b ∈ all cs := by
  induction h with
  | none a => exact ha
  | more h _ ih => exact ih (h.mem_all ha)

/-- Where there is no bound on the rounds, the number of places bounds them without loss. -/
theorem rounds_within_iff (h : cs.length < rounds) (ha : a ∈ all cs) (bound : Option Nat) :
    (∃ n < bound.getD rounds, Rounds (Matches p) (n + 1) a b) ↔
      ∃ n, (∀ m, bound = some m → n < m) ∧ Rounds (Matches p) (n + 1) a b := by
  cases bound with
  | some m => simp
  | none =>
    simp only [Option.getD_none, reduceCtorEq, false_implies, implies_true, true_and]
    constructor
    · rintro ⟨n, -, hn⟩
      exact ⟨n, hn⟩
    · rintro ⟨n, hn⟩
      obtain ⟨m, hm, hr⟩ := (onward_matches p).exists_rounds_le hn
      have := index_le (mem_all_of_rounds hn ha)
      exact ⟨m, by omega, hr⟩

theorem matches_repeated_zero_iff :
    Matches (.repeated 0 greatest p) a b ↔
      a = b ∨ ∃ n, (∀ m, greatest = some m → n < m) ∧ Rounds (Matches p) (n + 1) a b := by
  rw [matches_repeated_iff]
  constructor
  · rintro ⟨n, -, hgreatest, hn⟩
    cases n with
    | zero => exact .inl (rounds_zero_iff.mp hn)
    | succ n => exact .inr ⟨n, hgreatest, hn⟩
  · rintro (rfl | ⟨n, hgreatest, hn⟩)
    · exact ⟨0, Nat.le_refl _, fun _ _ => Nat.zero_le _, .none a⟩
    · exact ⟨n + 1, Nat.zero_le _, hgreatest, hn⟩

theorem matches_repeated_succ_iff :
    Matches (.repeated (least + 1) greatest p) a b ↔
      ∃ x, Rounds (Matches p) least a x ∧
        ∃ n, (∀ m, greatest.map (· - least) = some m → n < m) ∧
          Rounds (Matches p) (n + 1) x b := by
  rw [matches_repeated_iff]
  constructor
  · rintro ⟨n, hleast, hgreatest, hn⟩
    obtain ⟨k, rfl⟩ : ∃ k, n = least + (k + 1) := ⟨n - (least + 1), by omega⟩
    obtain ⟨x, hx, hk⟩ := rounds_add_iff.mp hn
    refine ⟨x, hx, k, fun m hm => ?_, hk⟩
    obtain ⟨g, rfl, rfl⟩ := Option.map_eq_some_iff.mp hm
    have := hgreatest g rfl
    omega
  · rintro ⟨x, hx, n, hgreatest, hn⟩
    refine ⟨least + (n + 1), by omega, ?_, rounds_add_iff.mpr ⟨x, hx, hn⟩⟩
    rintro m rfl
    have := hgreatest (m - least) rfl
    omega

theorem follows_char (p : Char → Bool) :
    Follows cs (fun as => as.filterMap (step? p)) (Matches (.char p)) := by
  refine ⟨fun has => ⟨fun b hb => ?_, ?_⟩, fun has b => ?_⟩
  · obtain ⟨a, ha, hab⟩ := List.mem_filterMap.mp hb
    obtain ⟨ch, -, hlead⟩ := step?_eq_some_iff.mp hab
    exact hlead.mem_all (has.ofText a ha)
  · refine has.ordered.filterMap _ fun a a' haa' b hab b' hab' => ?_
    obtain ⟨_, -, hb⟩ := step?_eq_some_iff.mp hab
    obtain ⟨_, -, hb'⟩ := step?_eq_some_iff.mp hab'
    rw [hb.index, hb'.index]
    exact Nat.succ_lt_succ haa'
  · simp only [List.mem_filterMap, matches_char_iff]

theorem follows_anchor (k : Anchor) :
    Follows cs (fun as => as.filter fun a => a.allowedBy k) (Matches (.anchor k)) := by
  refine ⟨fun has => has.sublist List.filter_sublist, fun has b => ?_⟩
  simp only [List.mem_filter, matches_anchor_iff]
  constructor
  · rintro ⟨hb, hk⟩
    exact ⟨b, hb, hk, rfl⟩
  · rintro ⟨a, ha, hk, rfl⟩
    exact ⟨ha, hk⟩

/-- On the sets of places of a text, a pattern leads to where its matches end. -/
theorem ends_follows (p : Pattern) (h : cs.length < rounds) :
    Follows cs (p.ends rounds) (Matches p) := by
  induction p with
  | empty => exact follows_id.congr fun _ _ _ => matches_empty_iff.symm
  | char p => exact follows_char p
  | anchor k => exact follows_anchor k
  | seq p q ihp ihq => exact (ihp.comp ihq).congr fun _ _ _ => matches_seq_iff.symm
  | alt p q ihp ihq => exact (ihp.union ihq).congr fun _ _ _ => matches_alt_iff.symm
  | repeated least greatest p ih =>
    have hreach := ih.reach (onward_matches p)
    cases least with
    | zero =>
      refine (follows_id.union (hreach (greatest.getD rounds))).congr fun a ha b => ?_
      rw [rounds_within_iff h ha, matches_repeated_zero_iff]
    | succ least =>
      refine ((ih.again least).comp
        (hreach ((greatest.map (· - least)).getD rounds))).congr fun a ha b => ?_
      rw [matches_repeated_succ_iff]
      refine exists_congr fun x => and_congr_right fun hx => ?_
      rw [rounds_within_iff h (mem_all_of_rounds hx ha)]

/-- **A pattern occurs in a text when it matches a piece of it.** -/
theorem occursIn_iff {s : String} :
    p.occursIn s = true ↔ ∃ a ∈ all s.toList, ∃ b, Matches p a b := by
  have hends := (ends_follows p (Nat.lt_of_lt_of_eq (Nat.lt_succ_self _)
    (length_all s.toList).symm)).mem_iff (setOf_all s.toList)
  simp only [occursIn, Bool.not_eq_true', List.isEmpty_eq_false_iff_exists_mem, hends]
  exact ⟨fun ⟨b, a, ha, hab⟩ => ⟨a, ha, b, hab⟩, fun ⟨a, ha, b, hab⟩ => ⟨b, a, ha, hab⟩⟩

end Matching

end Pattern
end SchemaEngine
