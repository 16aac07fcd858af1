import SchemaEngine.Instant
import SchemaEngine.Proofs.Digits

/-!
# Dates can be read off their texts

The days of the calendar can be counted again (`Instant.count_dayOfCount`), so no two days have
one date.  Every number in the text of an instant ends where no digit follows, so all of them can
be told: the minute, the second that is shown and the fraction.

The second that is shown counts a leap second, so a leap second that is not the last second of
its minute is spelled like the second after it.  `Instant.settled` puts every instant where its
text puts it (`Instant.spelled_settled`), and the text tells no more than that
(`Instant.settled_of_spelled`).
-/

namespace SchemaEngine
namespace Instant

/-! ## Days -/

/-- How many days of an era, counted from a first of March, come before its year `y`. -/
def daysBefore (y : Nat) : Nat := 365 * y + y / 4 - y / 100

/-- The number of a day, counted from the first of January 1970. -/
def Day.count (d : Day) : Int :=
  let year := if d.month < 3 then d.year - 1 else d.year
  let month := if d.month < 3 then d.month + 9 else d.month - 3
  let inYear := (153 * month + 2) / 5 + d.day - 1
  year / 400 * 146097 + (daysBefore (year % 400).toNat + inYear : Nat) - 719468

/-- The year of an era that a day is in has begun, and has no more than 366 days. -/
theorem daysBefore_yearOfEra {day y : Nat} (hday : day < 146097)
    (hy : y = (day - day / 1460 + day / 36524 - day / 146096) / 365) :
    y < 400 ∧ daysBefore y ≤ day ∧ day ≤ daysBefore y + 365 := by
  have hcentury : (day / 36524 - day / 146096 = 0 ∧ day < 36524) ∨
      (day / 36524 - day / 146096 = 1 ∧ 36524 ≤ day ∧ day < 73048) ∨
      (day / 36524 - day / 146096 = 2 ∧ 73048 ≤ day ∧ day < 109572) ∨
      (day / 36524 - day / 146096 = 3 ∧ 109572 ≤ day) := by omega
  have hdays : day - day / 1460 + day / 36524 - day / 146096 =
      day - day / 1460 + (day / 36524 - day / 146096) := by omega
  have hcycle : 1460 * (day / 1460) ≤ day ∧ day < 1460 * (day / 1460) + 1460 := by omega
  rw [hdays] at hy
  clear hdays
  -- in each century there is one leap year less
  generalize day / 36524 - day / 146096 = century at *
  generalize day / 1460 = cycle at *
  have hyear : 365 * y ≤ day - cycle + century ∧ day - cycle + century < 365 * y + 365 := by omega
  clear hy
  have hleap : y / 4 = cycle ∨ y / 4 + 1 = cycle := by omega
  have hhundreds : y / 100 = century := by omega
  rw [daysBefore]
  omega

/-- **A day can be counted again**: its date tells its number. -/
theorem count_dayOfCount (n : Int) : (dayOfCount n).count = n := by
  obtain ⟨day, hday⟩ : ∃ day, day = ((n + 719468) % 146097).toNat := ⟨_, rfl⟩
  obtain ⟨y, hy⟩ : ∃ y, y = (day - day / 1460 + day / 36524 - day / 146096) / 365 := ⟨_, rfl⟩
  obtain ⟨inYear, hinYear⟩ : ∃ inYear, inYear = day - daysBefore y := ⟨_, rfl⟩
  obtain ⟨month, hmonth⟩ : ∃ month, month = (5 * inYear + 2) / 153 := ⟨_, rfl⟩
  have hdate : dayOfCount n =
      { year := if month < 10 then (y : Int) + (n + 719468) / 146097 * 400
          else (y : Int) + (n + 719468) / 146097 * 400 + 1
        month := if month < 10 then month + 3 else month - 9
        day := inYear - (153 * month + 2) / 5 + 1 } := by
    rw [hmonth, hinYear, hy, hday]
    rfl
  obtain ⟨hera, hbegun, hlength⟩ := daysBefore_yearOfEra (by omega) hy
  have hyear : ((y : Int) + (n + 719468) / 146097 * 400) / 400 = (n + 719468) / 146097 ∧
      (((y : Int) + (n + 719468) / 146097 * 400) % 400).toNat = y := by omega
  rw [hdate, Day.count]
  clear hdate hy
  rcases Nat.lt_or_ge month 10 with hspring | hwinter
  · have hlate : ¬ month + 3 < 3 := by omega
    simp only [if_pos hspring, if_neg hlate, hyear.1, hyear.2]
    omega
  · have hnot : ¬ month < 10 := by omega
    have hearly : month - 9 < 3 := by omega
    simp only [if_neg hnot, if_pos hearly, Int.add_sub_cancel, hyear.1, hyear.2]
    omega

/-! ## Numbers of a fixed width -/

open Text

section Padded
variable {v w n m : Nat} {x y : List Char}

theorem toList_padded (w n : Nat) : (padded w n).toList =
    List.replicate (w - (toString n).length) '0' ++ Nat.toDigits 10 n := by
  simp [padded]

theorem isDigit_of_mem_padded : ∀ c ∈ (padded w n).toList, c.isDigit = true := by
  intro c hc
  rw [toList_padded] at hc
  exact (List.mem_append.mp hc).elim (Decimal.isDigit_of_mem_zeros c) (isDigit_of_mem_toDigits c)

theorem padded_ne_nil : (padded w n).toList ≠ [] := by
  simp [toList_padded]

theorem ofDigits_padded : Decimal.ofDigits (padded w n).toList = n := by
  rw [toList_padded, Decimal.ofDigits_zeros_append, Decimal.ofDigits_toDigits]

theorem length_padded (hw : 0 < w) (hn : n < 10 ^ w) : (padded w n).toList.length = w := by
  have hlength := (Nat.length_toDigits_le_iff (by omega) hw).mpr hn
  rw [toList_padded, List.length_append, List.length_replicate, ← toList_toString,
    String.length_toList]
  rw [← toList_toString, String.length_toList] at hlength
  omega

/-- A number with zeros in front of it can be told, and so can what follows it. -/
theorem padded_append_inj (hx : NoDigitNext x) (hy : NoDigitNext y)
    (h : (padded v n).toList ++ x = (padded w m).toList ++ y) : n = m ∧ x = y := by
  obtain ⟨hdigits, hrest⟩ :=
    append_digits_inj isDigit_of_mem_padded isDigit_of_mem_padded hx hy h
  refine ⟨?_, hrest⟩
  rw [← ofDigits_padded (w := v) (n := n), hdigits, ofDigits_padded]

end Padded

/-! ## The text of an instant -/

/-- The year that a text begins with. -/
def yearOf : List Char → Int
  | '-' :: x => -(Decimal.ofDigits (x.takeWhile Char.isDigit) : Int)
  | '+' :: x => Decimal.ofDigits (x.takeWhile Char.isDigit)
  | x => Decimal.ofDigits (x.takeWhile Char.isDigit)

theorem yearOf_renderYear (year : Int) {x : List Char} (hx : NoDigitNext x) :
    yearOf ((renderYear year).toList ++ x) = year := by
  have hread : Decimal.ofDigits
      (((padded 4 year.natAbs).toList ++ x).takeWhile Char.isDigit) = year.natAbs := by
    rw [takeWhile_digits isDigit_of_mem_padded hx, ofDigits_padded]
  unfold renderYear
  split
  · have htext : ("-" ++ padded 4 year.natAbs).toList ++ x =
        '-' :: ((padded 4 year.natAbs).toList ++ x) := by simp
    rw [htext, yearOf, hread]
    omega
  · split
    · -- the first digit is no sign
      obtain ⟨c, cs, hcs⟩ := List.exists_cons_of_ne_nil (padded_ne_nil (w := 4) (n := year.natAbs))
      have hc : c.isDigit = true := isDigit_of_mem_padded c (hcs ▸ List.mem_cons_self ..)
      rw [hcs, List.cons_append] at hread ⊢
      rw [yearOf, hread]
      · omega
      · rintro _ ⟨⟩
        cases hc
      · rintro _ ⟨⟩
        cases hc
    · have htext : ("+" ++ padded 4 year.natAbs).toList ++ x =
          '+' :: ((padded 4 year.natAbs).toList ++ x) := by simp
      rw [htext, yearOf, hread]
      omega

/-- The fraction of a second that a text begins with, in nanoseconds. -/
def nanosOf : List Char → Nat
  | '.' :: x =>
    let digits := x.takeWhile Char.isDigit
    Decimal.ofDigits digits * 10 ^ (9 - digits.length)
  | _ => 0

theorem nanosOf_point {w n : Nat} (hw : 0 < w) (hn : n < 10 ^ w) (x : List Char) :
    nanosOf (("." ++ padded w n).toList ++ 'Z' :: x) = n * 10 ^ (9 - w) := by
  have htext : ("." ++ padded w n).toList ++ 'Z' :: x =
      '.' :: ((padded w n).toList ++ 'Z' :: x) := by simp
  rw [htext, nanosOf, takeWhile_digits isDigit_of_mem_padded (noDigitNext_cons rfl x),
    ofDigits_padded, length_padded hw hn]

theorem nanosOf_fraction {n : Nat} (hn : n < 1000000000) (x : List Char) :
    nanosOf ((fraction n).toList ++ 'Z' :: x) = n := by
  unfold fraction
  split
  · next hzero => exact hzero.symm
  · split
    · rw [nanosOf_point (by omega) (by omega)]
      omega
    · split
      · rw [nanosOf_point (by omega) (by omega)]
        omega
      · rw [nanosOf_point (by omega) (by omega)]
        omega

theorem noDigitNext_fraction (n : Nat) (x : List Char) :
    NoDigitNext ((fraction n).toList ++ 'Z' :: x) := by
  unfold fraction
  split
  · exact noDigitNext_cons rfl x
  · split
    · simpa using noDigitNext_cons (c := '.') rfl _
    · split
      · simpa using noDigitNext_cons (c := '.') rfl _
      · simpa using noDigitNext_cons (c := '.') rfl _

/-- The second of its minute that the text of an instant shows. -/
def shownSecond (t : Instant) : Nat := (t.seconds % 60).toNat + t.nanos / 1000000000

/-- The text of an instant, number by number. -/
theorem toList_spelled (t : Instant) (x : List Char) :
    let day := dayOfCount (t.seconds / 86400)
    let ofDay := (t.seconds % 86400).toNat
    t.spelled.toList ++ x = (renderYear day.year).toList ++ '-' ::
      ((padded 2 day.month).toList ++ '-' :: ((padded 2 day.day).toList ++ 'T' ::
        ((padded 2 (ofDay / 3600)).toList ++ ':' :: ((padded 2 (ofDay / 60 % 60)).toList ++ ':' ::
          ((padded 2 t.shownSecond).toList ++
            ((fraction (t.nanos % 1000000000)).toList ++ 'Z' :: x)))))) := by
  have hsecond : (t.seconds % 86400).toNat % 60 = (t.seconds % 60).toNat := by omega
  simp [spelled, clock, shownSecond, hsecond]

/-- The text of an instant tells the minute, the second that is shown, the fraction and what
follows it. -/
theorem spelled_append_inj {t t' : Instant} {x y : List Char}
    (h : t.spelled.toList ++ x = t'.spelled.toList ++ y) :
    t.seconds / 60 = t'.seconds / 60 ∧ t.shownSecond = t'.shownSecond ∧
      t.nanos % 1000000000 = t'.nanos % 1000000000 ∧ x = y := by
  have hmark : ∀ {c : Char} (z : List Char), c.isDigit = false → NoDigitNext (c :: z) :=
    fun z hc => noDigitNext_cons hc z
  rw [toList_spelled, toList_spelled] at h
  have hyear := congrArg yearOf h
  rw [yearOf_renderYear _ (hmark _ rfl), yearOf_renderYear _ (hmark _ rfl)] at hyear
  rw [hyear] at h
  have h := (List.cons.inj (List.append_cancel_left h)).2
  obtain ⟨hmonth, h⟩ := padded_append_inj (hmark _ rfl) (hmark _ rfl) h
  obtain ⟨hday, h⟩ := padded_append_inj (hmark _ rfl) (hmark _ rfl) (List.cons.inj h).2
  obtain ⟨hhour, h⟩ := padded_append_inj (hmark _ rfl) (hmark _ rfl) (List.cons.inj h).2
  obtain ⟨hminute, h⟩ := padded_append_inj (hmark _ rfl) (hmark _ rfl) (List.cons.inj h).2
  obtain ⟨hsecond, h⟩ := padded_append_inj (noDigitNext_fraction _ _) (noDigitNext_fraction _ _)
    (List.cons.inj h).2
  have hnanos := congrArg nanosOf h
  rw [nanosOf_fraction (Nat.mod_lt _ (by omega)), nanosOf_fraction (Nat.mod_lt _ (by omega))]
    at hnanos
  rw [hnanos] at h
  have hrest := (List.cons.inj (List.append_cancel_left h)).2
  have hcount : t.seconds / 86400 = t'.seconds / 86400 := by
    rw [← count_dayOfCount (t.seconds / 86400), Day.ext hyear hmonth hday, count_dayOfCount]
  exact ⟨by omega, hsecond, hnanos, hrest⟩

/-- Nothing else decides the text of an instant. -/
theorem spelled_of_parts {t t' : Instant} (hminute : t.seconds / 60 = t'.seconds / 60)
    (hsecond : t.shownSecond = t'.shownSecond)
    (hnanos : t.nanos % 1000000000 = t'.nanos % 1000000000) : t.spelled = t'.spelled := by
  have hday : t.seconds / 86400 = t'.seconds / 86400 := by omega
  have hhour : (t.seconds % 86400).toNat / 3600 = (t'.seconds % 86400).toNat / 3600 := by omega
  have hminute' : (t.seconds % 86400).toNat / 60 % 60 = (t'.seconds % 86400).toNat / 60 % 60 := by
    omega
  have htext : t.spelled.toList ++ [] = t'.spelled.toList ++ [] := by
    rw [toList_spelled, toList_spelled]
    simp only [hday, hhour, hminute', hsecond, hnanos]
  exact String.toList_inj.mp (List.append_cancel_right htext)

/-! ## Leap seconds -/

/-- The moment at which the text of an instant puts it: a leap second counts as the seconds
after it, as far as its minute reaches. -/
def settled (t : Instant) : Instant :=
  let moved := min (t.nanos / 1000000000) (59 - (t.seconds % 60).toNat)
  ⟨t.seconds + moved, t.nanos - moved * 1000000000⟩

/-- Where an instant settles can be told from its text. -/
theorem settled_eq (t : Instant) : t.settled =
    ⟨t.seconds / 60 * 60 + (min t.shownSecond 59 : Nat),
      (t.shownSecond - 59) * 1000000000 + t.nanos % 1000000000⟩ := by
  simp only [settled, shownSecond, mk.injEq]
  omega

theorem spelled_settled (t : Instant) : t.settled.spelled = t.spelled := by
  have hsettled := t.settled_eq
  generalize t.settled = t' at hsettled ⊢
  subst hsettled
  refine spelled_of_parts ?_ ?_ ?_
  · simp only [shownSecond]
    omega
  · simp only [shownSecond]
    omega
  · simp only
    omega

/-- **The text of an instant tells where it settles**, and what follows it. -/
theorem settled_of_spelled {t t' : Instant} {x y : List Char}
    (h : t.spelled.toList ++ x = t'.spelled.toList ++ y) : t.settled = t'.settled ∧ x = y := by
  obtain ⟨hminute, hsecond, hnanos, hrest⟩ := spelled_append_inj h
  exact ⟨by rw [settled_eq, settled_eq, hminute, hsecond, hnanos], hrest⟩

end Instant
end SchemaEngine
