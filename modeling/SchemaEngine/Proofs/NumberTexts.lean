import SchemaEngine.Number.Layout
import SchemaEngine.Proofs.Digits
import SchemaEngine.Proofs.Shortest

/-!
# Numbers can be read off their texts

In whichever layout a decimal is written, its text is read as a decimal of the same value
(`Layout.read?_render`): the digits themselves, or, when it is written without exponent and
fraction, the digits and the zeros behind them.  So the text of a finite double reads as this
double (`Layout.read?_renderUnits`), and doubles that are spelled alike are the same
(`Double.spelled_inj`).
-/

namespace SchemaEngine

open Text

namespace Decimal

/-! ## Reading decimal text -/

theorem readDigits?_toDigits (n : Nat) : readDigits? (Nat.toDigits 10 n) = some n := by
  have hall : (Nat.toDigits 10 n).all Char.isDigit = true :=
    List.all_eq_true.mpr isDigit_of_mem_toDigits
  have hempty : (Nat.toDigits 10 n).isEmpty = false :=
    List.isEmpty_eq_false_iff.mpr Nat.toDigits_ne_nil
  rw [readDigits?, hall, hempty, ofDigits_toDigits]
  rfl

theorem readExponent?_digits (n : Nat) :
    readExponent? ('e' :: Nat.toDigits 10 n) = some (n : Int) := by
  have hread := readDigits?_toDigits n
  cases hdigits : Nat.toDigits 10 n with
  | nil => exact absurd hdigits Nat.toDigits_ne_nil
  | cons c cs =>
    rw [hdigits] at hread
    -- the first digit is no sign
    have hc : c.isDigit = true := isDigit_of_mem_toDigits c (hdigits ▸ List.mem_cons_self ..)
    rw [readExponent?, if_pos (.inl rfl), hread]
    · rfl
    · rintro ds ⟨⟩
      cases hc
    · rintro ds ⟨⟩
      cases hc

section Read
variable {w f tail : List Char}

theorem read?_whole (hw : ∀ c ∈ w, c.isDigit = true) (hne : w ≠ [])
    (next : NoDigitNext tail) (noPoint : tail.head? ≠ some '.') :
    read? (w ++ tail) = (readExponent? tail).map fun e => ⟨ofDigits w, e⟩ := by
  have hempty : w.isEmpty = false := List.isEmpty_eq_false_iff.mpr hne
  unfold read?
  rw [takeWhile_digits hw next, dropWhile_digits hw next]
  cases tail with
  | nil => simp [hempty]
  | cons c rest =>
    have hpoint : c ≠ '.' := fun h => noPoint (congrArg some h)
    simp [hempty, hpoint]

theorem read?_fraction (hw : ∀ c ∈ w, c.isDigit = true) (hne : w ≠ [])
    (hf : ∀ c ∈ f, c.isDigit = true) (next : NoDigitNext tail) :
    read? (w ++ '.' :: (f ++ tail)) =
      (readExponent? tail).map fun e => ⟨ofDigits (w ++ f), e - f.length⟩ := by
  have hpoint : NoDigitNext ('.' :: (f ++ tail)) := noDigitNext_cons rfl _
  have hempty : w.isEmpty = false := List.isEmpty_eq_false_iff.mpr hne
  unfold read?
  rw [takeWhile_digits hw hpoint, dropWhile_digits hw hpoint]
  simp only [takeWhile_digits hf next, dropWhile_digits hf next, hempty, Bool.false_and]
  rfl

theorem mem_of_readDigits? {x : List Char} {n : Nat} (h : readDigits? x = some n) :
    ∀ c ∈ x, c.isDigit = true := by
  unfold readDigits? at h
  split at h
  · next hall => exact List.all_eq_true.mp (Bool.and_eq_true_iff.mp hall).2
  · cases h

theorem mem_of_readExponent? {x : List Char} {e : Int} (h : readExponent? x = some e) :
    ∀ c ∈ x, c.isDigit = true ∨ c ∈ ['.', 'e', 'E', '-', '+'] := by
  unfold readExponent? at h
  split at h
  · simp
  · next m ds =>
    split at h
    · next hmark =>
      have hdigits : ∀ c ∈ ds, c.isDigit = true ∨ c = '-' ∨ c = '+' := by
        split at h
        · obtain ⟨n, hn, -⟩ := Option.map_eq_some_iff.mp h
          exact List.forall_mem_cons.mpr
            ⟨by simp, fun c hc => .inl (mem_of_readDigits? hn c hc)⟩
        · obtain ⟨n, hn, -⟩ := Option.map_eq_some_iff.mp h
          exact List.forall_mem_cons.mpr
            ⟨by simp, fun c hc => .inl (mem_of_readDigits? hn c hc)⟩
        · obtain ⟨n, hn, -⟩ := Option.map_eq_some_iff.mp h
          exact fun c hc => .inl (mem_of_readDigits? hn c hc)
      intro c hc
      rcases List.mem_cons.mp hc with rfl | hc
      · rcases hmark with rfl | rfl <;> simp
      · rcases hdigits c hc with hdigit | rfl | rfl
        · exact .inl hdigit
        · simp
        · simp
    · cases h

/-- Decimal text consists of digits, the point, the mark of an exponent and signs. -/
theorem mem_of_read? {x : List Char} {d : Decimal} (h : read? x = some d) {c : Char}
    (hc : c ∈ x) : c.isDigit = true ∨ c ∈ ['.', 'e', 'E', '-', '+'] := by
  have hrun : ∀ {y : List Char}, c ∈ y → c.isDigit = true ∨ c ∈ y.dropWhile Char.isDigit := by
    intro y hy
    rw [← List.takeWhile_append_dropWhile (p := Char.isDigit) (l := y), List.mem_append] at hy
    exact hy.imp (List.all_eq_true.mp List.all_takeWhile c) id
  unfold read? at h
  dsimp only at h
  refine (hrun hc).elim .inl fun hrest => ?_
  split at h
  · next r heq =>
    obtain ⟨e, he, -⟩ := Option.map_eq_some_iff.mp (Option.ite_none_left_eq_some.mp h).2
    rw [heq] at hrest
    rcases List.mem_cons.mp hrest with rfl | hr
    · simp
    · exact (hrun hr).elim .inl (mem_of_readExponent? he c)
  · obtain ⟨e, he, -⟩ := Option.map_eq_some_iff.mp (Option.ite_none_left_eq_some.mp h).2
    exact mem_of_readExponent? he c hrest

/-- Decimal text begins with a digit or with the point. -/
theorem head_of_read? {x : List Char} {d : Decimal} (h : read? x = some d) :
    ∃ c rest, x = c :: rest ∧ (c.isDigit = true ∨ c = '.') := by
  cases x with
  | nil => cases h
  | cons c rest =>
    refine ⟨c, rest, rfl, ?_⟩
    by_contra hc
    obtain ⟨hdigit, hpoint⟩ := not_or.mp hc
    unfold read? at h
    rw [List.takeWhile_cons_of_neg hdigit, List.dropWhile_cons_of_neg hdigit] at h
    simp [hpoint] at h

end Read

end Decimal

/-! ## Reading doubles -/

theorem Double.named?_eq_none {c : Char} {rest : List Char} {negative : Bool}
    (hc : c.isDigit = true ∨ c = '.') : Double.named? negative (c :: rest) = none := by
  have hlower : c.toLower = c := by
    rcases hc with hc | rfl
    · have hdigit : c.val.toNat ≤ 57 := (Char.isDigit_iff_toNat.mp hc).2
      refine dif_neg fun hupper => ?_
      have hletter : 65 ≤ c.val.toNat := UInt32.le_iff_toNat_le.mp hupper.1
      omega
    · rfl
  have hname : c ≠ 'n' ∧ c ≠ 'i' := by
    constructor <;>
      rintro rfl <;> simp at hc
  simp [Double.named?, hlower, hname.1, hname.2]

/-- What reads as a decimal reads as a double, behind any sign. -/
theorem Double.read?_of_decimal {s : String} {d : Decimal} (negative : Bool)
    (h : Decimal.read? s.toList = some d) :
    Double.read? ((if negative then "-" else "") ++ s) =
      some (Double.ofDecimal negative d.digits d.exponent) := by
  obtain ⟨c, rest, hs, hc⟩ := Decimal.head_of_read? h
  have hbehind : Double.readBehindSign? negative (c :: rest) =
      some (Double.ofDecimal negative d.digits d.exponent) := by
    rw [Double.readBehindSign?, Double.named?_eq_none hc, ← hs, h]
    rfl
  unfold Double.read?
  rw [String.toList_append, hs]
  cases negative with
  | true => exact hbehind
  | false =>
    have hminus : c ≠ '-' := by rintro rfl; simp at hc
    have hplus : c ≠ '+' := by rintro rfl; simp at hc
    simpa [hminus, hplus] using hbehind

/-! ## Layouts -/

namespace Layout

theorem readExponent?_exponent (l : Layout) (e : Int) :
    Decimal.readExponent? (l.exponent e).toList = some e := by
  cases e with
  | ofNat n =>
    have hsign : decide (0 ≤ Int.ofNat n) = true := decide_eq_true (Int.natCast_nonneg n)
    have htext : (l.exponent (.ofNat n)).toList =
        'e' :: ((if l.signsExponent then "+" else "").toList ++ Nat.toDigits 10 n) := by
      rw [exponent, hsign, Bool.and_true, String.toList_append, String.toList_append,
        ← toList_toString n]
      rfl
    rw [htext]
    cases l.signsExponent with
    | true =>
      have hplus : (if true then "+" else "").toList ++ Nat.toDigits 10 n =
          '+' :: Nat.toDigits 10 n := rfl
      rw [hplus, Decimal.readExponent?]
      simp [Decimal.readDigits?_toDigits]
    | false => exact Decimal.readExponent?_digits n
  | negSucc n =>
    have hsign : decide (0 ≤ Int.negSucc n) = false := rfl
    have hminus : toString (Int.negSucc n) = "-" ++ toString (n + 1) := rfl
    have htext : (l.exponent (.negSucc n)).toList = 'e' :: '-' :: Nat.toDigits 10 (n + 1) := by
      rw [exponent, hsign, Bool.and_false, hminus]
      simp
    rw [htext, Decimal.readExponent?]
    simp [Decimal.readDigits?_toDigits, Int.negSucc_eq]

section Render
variable (l : Layout) (n : Nat) (e : Int)

theorem length_toString : (toString n).length = (Nat.toDigits 10 n).length := by
  rw [← toList_toString, String.length_toList]

theorem read?_plain_whole (whole : 0 ≤ e) :
    ∃ k : Nat, Decimal.read? (l.plain (toString n) e).toList = some ⟨n * 10 ^ k, e - k⟩ ∧
      -1 ≤ e - k := by
  have hall : ∀ c ∈ Nat.toDigits 10 n ++ List.replicate e.toNat '0', c.isDigit = true :=
    fun c hc => (List.mem_append.mp hc).elim (isDigit_of_mem_toDigits c)
      (Decimal.isDigit_of_mem_zeros c)
  have hne : Nat.toDigits 10 n ++ List.replicate e.toNat '0' ≠ [] := by simp
  have hplain : l.plain (toString n) e =
      toString n ++ zeros e.toNat ++ (if l.keepsPoint then ".0" else "") := if_pos whole
  rw [hplain]
  cases l.keepsPoint with
  | false =>
    have hread := Decimal.read?_whole hall hne noDigitNext_nil (by simp)
    have htext : (toString n ++ zeros e.toNat ++ if false then ".0" else "").toList =
        Nat.toDigits 10 n ++ List.replicate e.toNat '0' ++ [] := by simp [zeros]
    refine ⟨e.toNat, ?_, by omega⟩
    rw [htext, hread, Decimal.ofDigits_append_zeros, Decimal.ofDigits_toDigits,
      Int.toNat_of_nonneg whole, Int.sub_self]
    rfl
  | true =>
    have hread := Decimal.read?_fraction (f := ['0']) hall hne (by simp) noDigitNext_nil
    have htext : (toString n ++ zeros e.toNat ++ if true then ".0" else "").toList =
        Nat.toDigits 10 n ++ List.replicate e.toNat '0' ++ '.' :: (['0'] ++ []) := by
      simp [zeros]
    have hzeros : Nat.toDigits 10 n ++ List.replicate e.toNat '0' ++ ['0'] =
        Nat.toDigits 10 n ++ List.replicate (e.toNat + 1) '0' := by
      rw [List.append_assoc, List.replicate_succ']
    have hexponent : e - ((e.toNat + 1 : Nat) : Int) = -1 := by omega
    refine ⟨e.toNat + 1, ?_, hexponent.ge⟩
    rw [htext, hread, hzeros, Decimal.ofDigits_append_zeros, Decimal.ofDigits_toDigits, hexponent]
    rfl

theorem read?_plain_fraction (fraction : ¬ 0 ≤ e) :
    Decimal.read? (l.plain (toString n) e).toList = some ⟨n, e⟩ := by
  have hdigits := isDigit_of_mem_toDigits (n := n)
  have hlength := length_toString n
  have hread : ∀ {w f : List Char}, (∀ c ∈ w, c.isDigit = true) → w ≠ [] →
      (∀ c ∈ f, c.isDigit = true) → Decimal.ofDigits (w ++ f) = n → (f.length : Int) = -e →
      Decimal.read? (w ++ '.' :: f) = some ⟨n, e⟩ := by
    intro w f hw hne hf hnumber hexponent
    have hread := Decimal.read?_fraction hw hne hf noDigitNext_nil
    rw [List.append_nil, hnumber, hexponent, Decimal.readExponent?, Option.map_some] at hread
    simpa using hread
  unfold plain
  dsimp only
  rw [if_neg fraction]
  split
  · -- the point stands among the digits
    obtain ⟨m, hm⟩ : ∃ m, m = ((toString n).length + e).toNat := ⟨_, rfl⟩
    have htext : (String.ofList ((toString n).toList.take m) ++ "." ++
        String.ofList ((toString n).toList.drop m)).toList =
          (Nat.toDigits 10 n).take m ++ '.' :: (Nat.toDigits 10 n).drop m := by
      simp
    rw [← hm, htext]
    refine hread (fun c hc => hdigits c (List.mem_of_mem_take hc)) ?_
      (fun c hc => hdigits c (List.mem_of_mem_drop hc)) ?_ ?_
    · simp only [ne_eq, List.take_eq_nil_iff, Nat.toDigits_ne_nil, or_false]
      omega
    · rw [List.take_append_drop, Decimal.ofDigits_toDigits]
    · rw [List.length_drop]
      omega
  · -- the point stands in front of them, with zeros in between
    obtain ⟨m, hm⟩ : ∃ m, m = (-((toString n).length + e)).toNat := ⟨_, rfl⟩
    have htext : ("0." ++ zeros m ++ toString n).toList =
        ['0'] ++ '.' :: (List.replicate m '0' ++ Nat.toDigits 10 n) := by
      simp [zeros]
    have hzeros : ['0'] ++ (List.replicate m '0' ++ Nat.toDigits 10 n) =
        List.replicate (m + 1) '0' ++ Nat.toDigits 10 n := rfl
    rw [← hm, htext]
    refine hread (by simp) (List.cons_ne_nil _ _) (fun c hc => (List.mem_append.mp hc).elim
      (Decimal.isDigit_of_mem_zeros c) (hdigits c)) ?_ ?_
    · rw [hzeros, Decimal.ofDigits_zeros_append, Decimal.ofDigits_toDigits]
    · rw [List.length_append, List.length_replicate]
      omega

theorem toList_exponent : ∃ rest, (l.exponent e).toList = 'e' :: rest := by
  rw [exponent, String.toList_append, String.toList_append, List.append_assoc]
  exact ⟨_, rfl⟩

/-- With an exponent the digits are read as they are. -/
theorem read?_scientific :
    Decimal.read? (mantissa (toString n) ++ l.exponent ((toString n).length - 1 + e)).toList =
      some ⟨n, e⟩ := by
  have hdigits := isDigit_of_mem_toDigits (n := n)
  have hnumber := Decimal.ofDigits_toDigits n
  have hexponent := l.readExponent?_exponent ((toString n).length - 1 + e)
  obtain ⟨rest, hrest⟩ := l.toList_exponent ((toString n).length - 1 + e)
  rw [String.toList_append, mantissa, toList_toString]
  rw [length_toString] at hexponent hrest ⊢
  rw [hrest] at hexponent ⊢
  have next : NoDigitNext ('e' :: rest) := noDigitNext_cons rfl rest
  cases hds : Nat.toDigits 10 n with
  | nil => exact absurd hds Nat.toDigits_ne_nil
  | cons c cs =>
    rw [hds] at hdigits hnumber hexponent
    cases cs with
    | nil =>
      have hread := Decimal.read?_whole hdigits (List.cons_ne_nil _ _) next (by simp)
      rw [hexponent, hnumber] at hread
      simpa using hread
    | cons c' cs =>
      have hread := Decimal.read?_fraction (w := [c]) (f := c' :: cs)
        (fun x hx => hdigits x (List.mem_cons.mpr (.inl (List.mem_singleton.mp hx))))
        (List.cons_ne_nil _ _) (fun x hx => hdigits x (List.mem_cons_of_mem _ hx)) next
      rw [hexponent, List.singleton_append, List.singleton_append, hnumber] at hread
      simpa using hread

end Render

/-- What is read of a decimal that was written: its digits and some zeros behind them, which
stand for the power of ten. -/
theorem read?_render (l : Layout) (d : Decimal) :
    ∃ k : Nat, Decimal.read? (l.render d).toList =
        some ⟨d.digits * 10 ^ k, d.exponent - k⟩ ∧ (k = 0 ∨ -1 ≤ d.exponent - k) := by
  unfold render
  dsimp only
  split
  · rcases lt_or_ge d.exponent 0 with hfraction | hwhole
    · have hread := l.read?_plain_fraction d.digits d.exponent (Int.not_le.mpr hfraction)
      exact ⟨0, by simpa using hread, .inl rfl⟩
    · obtain ⟨k, hread, hk⟩ := l.read?_plain_whole d.digits d.exponent hwhole
      exact ⟨k, hread, .inr hk⟩
  · exact ⟨0, by simpa using l.read?_scientific d.digits d.exponent, .inl rfl⟩

/-! ## The texts of doubles -/

/-- **A finite double can be read off its text**, in every layout. -/
theorem read?_renderUnits (l : Layout) (negative : Bool) {u : Nat} (hu : Double.Representable u) :
    Double.read? (l.renderUnits negative u) = some (.finite negative u hu) := by
  obtain ⟨d, hd⟩ : ∃ d, d = if u = 0 then ⟨0, 0⟩ else Double.shortest l.tie u := ⟨_, rfl⟩
  have hvalue : Double.ofDecimal negative d.digits d.exponent = .finite negative u hu ∧
      -400 ≤ d.exponent ∧ d.exponent ≤ 400 := by
    by_cases hzero : u = 0
    · subst hzero
      rw [hd, if_pos rfl]
      exact ⟨rfl, by decide, by decide⟩
    · rw [hd, if_neg hzero]
      exact ⟨Double.ofDecimal_shortest l.tie negative hu hzero,
        (Double.shortest_spec l.tie hu hzero).2⟩
  obtain ⟨hvalue, hlow, hhigh⟩ := hvalue
  obtain ⟨k, hread, hk⟩ := l.read?_render d
  have hshift : Double.ofDecimal negative (d.digits * 10 ^ k) (d.exponent - k) =
      .finite negative u hu :=
    (Double.ofDecimal_shift negative (by omega) hhigh).trans hvalue
  rw [renderUnits, ← hd, Double.read?_of_decimal negative hread, hshift]

end Layout

/-- **A double can be read off its spelling**, whichever it is. -/
theorem Double.read?_spelled (x : Double) : Double.read? x.spelled = some x := by
  cases x with
  | nan => decide
  | infinite negative => cases negative <;> decide
  | finite negative u hu => exact Layout.spelled.read?_renderUnits negative hu

theorem Double.spelled_inj {x y : Double} : x.spelled = y.spelled ↔ x = y := by
  refine ⟨fun h => ?_, congrArg spelled⟩
  have hread := x.read?_spelled
  rw [h, y.read?_spelled] at hread
  exact (Option.some.inj hread).symm

/-- A spelled number holds no bracket. -/
theorem Double.not_mem_spelled (x : Double) : ')' ∉ x.spelled.toList := by
  cases x with
  | nan => decide
  | infinite negative => cases negative <;> decide
  | finite negative u hu =>
    have hrender : ∀ d, ')' ∉ (Layout.spelled.render d).toList := by
      intro d hmem
      obtain ⟨k, hread, -⟩ := Layout.spelled.read?_render d
      exact absurd (Decimal.mem_of_read? hread hmem) (by decide)
    cases negative <;> simp [Double.spelled, Layout.renderUnits, hrender]

end SchemaEngine
