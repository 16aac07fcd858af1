import Mathlib.Data.List.Basic
import Mathlib.Order.Iterate
import SchemaEngine.Pattern.Basic

/-!
# Places and sets of places

`Place.Leads a x b` says that from the place `a` the characters `x` lead to the place `b`.
The places of a text are those that lead from its beginning, and each is known by its index.

A set of places of a text (`SetOf`) is a list in the order of the indices.  On such lists the
operations of patterns do what their names say, although they only compare indices: union and
difference (`mem_union`, `mem_without`), and the two searches, which apply a function of sets
again and again.  What such a function does is said by the relation between places that it
follows (`Follows`).  A search that applies it `n` times follows the relation `n` times
(`Follows.again`).  A search that goes on from new places only (`Follows.reach`) loses nothing
by it: every round has applied the function to all places before the new ones, so what they
lead to is found already.
-/

namespace SchemaEngine
namespace Place

/-! ## From place to place -/

/-- The characters `x` lead from one place to another. -/
structure Leads (a : Place) (x : List Char) (b : Place) : Prop where
  after : a.after = x ++ b.after
  index : b.index = a.index + x.length
  before : b.before = x.getLast?.or a.before

section Leads
variable {a b c : Place} {x y : List Char} {ch : Char}

theorem leads_refl (a : Place) : a.Leads [] a := ⟨rfl, rfl, rfl⟩

theorem Leads.eq (h : a.Leads x b) (h' : a.Leads x c) : b = c := by
  obtain ⟨i, before, after⟩ := b
  obtain ⟨j, before', after'⟩ := c
  obtain rfl : i = j := h.index.trans h'.index.symm
  obtain rfl : before = before' := h.before.trans h'.before.symm
  obtain rfl : after = after' := List.append_cancel_left (h.after.symm.trans h'.after)
  rfl

@[simp] theorem leads_nil_iff : a.Leads [] b ↔ a = b :=
  ⟨fun h => (leads_refl a).eq h, fun h => h ▸ leads_refl a⟩

theorem Leads.trans (h : a.Leads x b) (h' : b.Leads y c) : a.Leads (x ++ y) c := by
  refine ⟨?_, ?_, ?_⟩
  · rw [h.after, h'.after, List.append_assoc]
  · rw [h'.index, h.index, List.length_append, Nat.add_assoc]
  · rw [h'.before, h.before, List.getLast?_append, Option.or_assoc]

/-- There is a place between two pieces of text. -/
theorem Leads.between (h : a.Leads (x ++ y) c) : ∃ b, a.Leads x b ∧ b.Leads y c := by
  refine ⟨⟨a.index + x.length, x.getLast?.or a.before, y ++ c.after⟩, ⟨?_, rfl, rfl⟩, rfl, ?_, ?_⟩
  · rw [h.after, List.append_assoc]
  · rw [h.index, List.length_append, Nat.add_assoc]
  · rw [h.before, List.getLast?_append, Option.or_assoc]

/-- Two pieces of one length that lead to places of the same text are the same piece. -/
theorem Leads.eq_of_index (h : a.Leads x b) (h' : a.Leads y c) (hindex : b.index = c.index) :
    b = c := by
  have hlength : x.length = y.length := by
    have := h.index
    have := h'.index
    omega
  have hxy : x = y := List.append_inj_left (h.after.symm.trans h'.after) hlength
  exact h.eq (hxy ▸ h')

theorem step?_eq_some_iff {p : Char → Bool} :
    a.step? p = some b ↔ ∃ ch, p ch = true ∧ a.Leads [ch] b := by
  obtain ⟨i, before, after⟩ := a
  constructor
  · intro h
    cases after with
    | nil => cases h
    | cons ch rest =>
      simp only [step?] at h
      split at h
      · rename_i hp
        obtain rfl := Option.some.inj h
        exact ⟨ch, hp, rfl, rfl, rfl⟩
      · cases h
  · rintro ⟨ch, hp, h⟩
    obtain rfl : after = ch :: b.after := h.after
    have hnext : Leads ⟨i, before, ch :: b.after⟩ [ch] ⟨i + 1, some ch, b.after⟩ :=
      ⟨rfl, rfl, rfl⟩
    have hstep : step? p ⟨i, before, ch :: b.after⟩ = some ⟨i + 1, some ch, b.after⟩ := if_pos hp
    rw [hstep, hnext.eq h]

end Leads

/-! ## The places of a text -/

theorem mem_onwards {b : Place} {i : Nat} {before : Option Char} {cs : List Char} :
    b ∈ onwards i before cs ↔ ∃ x, Leads ⟨i, before, cs⟩ x b := by
  induction cs generalizing i before with
  | nil =>
    rw [onwards, List.mem_singleton]
    constructor
    · rintro rfl
      exact ⟨[], leads_refl _⟩
    · rintro ⟨x, h⟩
      obtain ⟨rfl, -⟩ := List.append_eq_nil_iff.mp h.after.symm
      exact (leads_nil_iff.mp h).symm
  | cons ch cs ih =>
    have hnext : Leads ⟨i, before, ch :: cs⟩ [ch] ⟨i + 1, some ch, cs⟩ := ⟨rfl, rfl, rfl⟩
    rw [onwards, List.mem_cons, ih]
    constructor
    · rintro (rfl | ⟨x, h⟩)
      · exact ⟨[], leads_refl _⟩
      · exact ⟨ch :: x, hnext.trans h⟩
    · rintro ⟨x, h⟩
      cases x with
      | nil => exact .inl (leads_nil_iff.mp h).symm
      | cons ch' x =>
        obtain ⟨rfl, -⟩ := List.cons.inj h.after
        obtain ⟨c, hc, hx⟩ := Leads.between (x := [ch]) h
        exact .inr ⟨x, hnext.eq hc ▸ hx⟩

/-- The places of a text lead from its beginning. -/
theorem mem_all {b : Place} {cs : List Char} : b ∈ all cs ↔ ∃ x, (start cs).Leads x b :=
  mem_onwards

/-- A place of a text is known by its index. -/
theorem eq_of_index {a b : Place} {cs : List Char} (ha : a ∈ all cs) (hb : b ∈ all cs)
    (h : a.index = b.index) : a = b := by
  obtain ⟨x, hx⟩ := mem_all.mp ha
  obtain ⟨y, hy⟩ := mem_all.mp hb
  exact hx.eq_of_index hy h

theorem index_le {a : Place} {cs : List Char} (ha : a ∈ all cs) : a.index ≤ cs.length := by
  obtain ⟨x, hx⟩ := mem_all.mp ha
  have hindex : a.index = 0 + x.length := hx.index
  have hafter : cs = x ++ a.after := hx.after
  rw [hindex, hafter, List.length_append]
  omega

theorem Leads.mem_all {a b : Place} {x cs : List Char} (h : a.Leads x b) (ha : a ∈ all cs) :
    b ∈ all cs := by
  obtain ⟨y, hy⟩ := Place.mem_all.mp ha
  exact Place.mem_all.mpr ⟨y ++ x, hy.trans h⟩

theorem length_onwards (i : Nat) (before : Option Char) (cs : List Char) :
    (onwards i before cs).length = cs.length + 1 := by
  induction cs generalizing i before with
  | nil => rfl
  | cons ch cs ih => rw [onwards, List.length_cons, ih, List.length_cons]

theorem length_all (cs : List Char) : (all cs).length = cs.length + 1 := length_onwards 0 none cs

/-! ## Sets of places -/

/-- A set of places of a text: a list of them in the order of the indices. -/
structure SetOf (cs : List Char) (as : List Place) : Prop where
  ofText : ∀ a ∈ as, a ∈ all cs
  ordered : as.Pairwise fun a b => a.index < b.index

section SetOf
variable {cs : List Char} {a b c : Place} {as bs : List Place}

theorem setOf_nil : SetOf cs [] := ⟨by simp, .nil⟩

theorem setOf_cons : SetOf cs (a :: as) ↔
    a ∈ all cs ∧ (∀ b ∈ as, a.index < b.index) ∧ SetOf cs as := by
  constructor
  · rintro ⟨htext, hordered⟩
    obtain ⟨ha, has⟩ := List.forall_mem_cons.mp htext
    obtain ⟨hfirst, hrest⟩ := List.pairwise_cons.mp hordered
    exact ⟨ha, hfirst, has, hrest⟩
  · rintro ⟨ha, hfirst, has, hrest⟩
    exact ⟨List.forall_mem_cons.mpr ⟨ha, has⟩, List.pairwise_cons.mpr ⟨hfirst, hrest⟩⟩

theorem SetOf.sublist (h : SetOf cs bs) (hsub : as.Sublist bs) : SetOf cs as :=
  ⟨fun a ha => h.ofText a (hsub.subset ha), h.ordered.sublist hsub⟩

theorem setOf_onwards (ha : a ∈ all cs) : SetOf cs (onwards a.index a.before a.after) := by
  refine ⟨fun b hb => ?_, ?_⟩
  · obtain ⟨x, hx⟩ := mem_onwards.mp hb
    exact hx.mem_all ha
  · obtain ⟨i, before, after⟩ := a
    clear ha
    induction after generalizing i before with
    | nil => exact List.pairwise_singleton _ _
    | cons ch rest ih =>
      refine List.pairwise_cons.mpr ⟨fun b hb => ?_, ih (i + 1) (some ch)⟩
      obtain ⟨x, hx⟩ := mem_onwards.mp hb
      have hindex : b.index = i + 1 + x.length := hx.index
      simp only [hindex]
      omega

theorem setOf_all (cs : List Char) : SetOf cs (all cs) :=
  setOf_onwards (a := start cs) (mem_all.mpr ⟨[], leads_refl _⟩)

theorem SetOf.eq_of_map_index (ha : SetOf cs as) (hb : SetOf cs bs)
    (h : as.map Place.index = bs.map Place.index) : as = bs := by
  induction as generalizing bs with
  | nil => exact (List.map_eq_nil_iff.mp h.symm).symm
  | cons a as ih =>
    cases bs with
    | nil => cases h
    | cons b bs =>
      obtain ⟨hindex, hrest⟩ := List.cons.inj h
      obtain ⟨ha, -, has⟩ := setOf_cons.mp ha
      obtain ⟨hb, -, hbs⟩ := setOf_cons.mp hb
      rw [eq_of_index ha hb hindex, ih has hbs hrest]

/-- In a set, the places before an index stand first. -/
theorem mem_dropWhile (h : SetOf cs bs) (i : Nat) :
    b ∈ bs.dropWhile (fun b => decide (b.index < i)) ↔ b ∈ bs ∧ i ≤ b.index := by
  induction bs with
  | nil => simp
  | cons first rest ih =>
    obtain ⟨-, hfirst, hrest⟩ := setOf_cons.mp h
    by_cases hi : first.index < i
    · rw [List.dropWhile_cons_of_pos (by simpa using hi), ih hrest, List.mem_cons]
      constructor
      · rintro ⟨hb, hle⟩
        exact ⟨.inr hb, hle⟩
      · rintro ⟨rfl | hb, hle⟩
        · omega
        · exact ⟨hb, hle⟩
    · rw [List.dropWhile_cons_of_neg (by simpa using hi)]
      refine ⟨fun hb => ⟨hb, ?_⟩, And.left⟩
      rcases List.mem_cons.mp hb with rfl | hb
      · omega
      · have := hfirst b hb
        omega

/-! ### Union and difference -/

theorem SetOf.le_of_mem (h : SetOf cs (b :: bs)) (hc : c ∈ b :: bs) : b.index ≤ c.index := by
  rcases List.mem_cons.mp hc with rfl | hc
  · exact Nat.le_refl _
  · exact Nat.le_of_lt ((setOf_cons.mp h).2.1 c hc)

/-- One more place in front of a set that is merged into others. -/
theorem merges_cons {rest : List Place → List Place}
    (hrest : ∀ {bs}, SetOf cs bs →
      SetOf cs (rest bs) ∧ ∀ c, c ∈ rest bs ↔ c ∈ as ∨ c ∈ bs)
    (ha : SetOf cs (a :: as)) (hb : SetOf cs bs) :
    SetOf cs (mergeOne a rest bs) ∧ ∀ c, c ∈ mergeOne a rest bs ↔ c ∈ a :: as ∨ c ∈ bs := by
  obtain ⟨hatext, hfirst, -⟩ := setOf_cons.mp ha
  induction bs with
  | nil =>
    obtain ⟨hset, hmem⟩ := hrest setOf_nil
    refine ⟨setOf_cons.mpr ⟨hatext, fun c hc => ?_, hset⟩, fun c => ?_⟩
    · exact hfirst c (((hmem c).mp hc).resolve_right List.not_mem_nil)
    · simp [mergeOne, hmem]
  | cons b bs ih =>
    obtain ⟨hbtext, hfirst', hbs⟩ := setOf_cons.mp hb
    rw [mergeOne]
    split
    · rename_i hab
      obtain ⟨hset, hmem⟩ := hrest hb
      refine ⟨setOf_cons.mpr ⟨hatext, fun c hc => ?_, hset⟩, fun c => ?_⟩
      · rcases (hmem c).mp hc with hc | hc
        · exact hfirst c hc
        · exact Nat.lt_of_lt_of_le hab (hb.le_of_mem hc)
      · rw [List.mem_cons, hmem, ← or_assoc, ← List.mem_cons]
    · split
      · rename_i hba
        obtain ⟨hset, hmem⟩ := ih hbs
        refine ⟨setOf_cons.mpr ⟨hbtext, fun c hc => ?_, hset⟩, fun c => ?_⟩
        · rcases (hmem c).mp hc with hc | hc
          · exact Nat.lt_of_lt_of_le hba (ha.le_of_mem hc)
          · exact hfirst' c hc
        · rw [List.mem_cons, hmem, List.mem_cons (a := c) (b := b)]
          exact or_left_comm
      · obtain rfl : a = b := eq_of_index hatext hbtext (by omega)
        obtain ⟨hset, hmem⟩ := hrest hbs
        refine ⟨setOf_cons.mpr ⟨hatext, fun c hc => ?_, hset⟩, fun c => ?_⟩
        · exact ((hmem c).mp hc).elim (hfirst c) (hfirst' c)
        · rw [List.mem_cons, hmem, List.mem_cons, List.mem_cons]
          tauto

/-- Merging two sets makes their union. -/
theorem merges_union (ha : SetOf cs as) (hb : SetOf cs bs) :
    SetOf cs (union as bs) ∧ ∀ c, c ∈ union as bs ↔ c ∈ as ∨ c ∈ bs := by
  induction as generalizing bs with
  | nil => exact ⟨hb, fun c => by simp [union]⟩
  | cons a as ih => exact merges_cons (fun hbs => ih (setOf_cons.mp ha).2.2 hbs) ha hb

theorem SetOf.union (ha : SetOf cs as) (hb : SetOf cs bs) : SetOf cs (union as bs) :=
  (merges_union ha hb).1

theorem mem_union (ha : SetOf cs as) (hb : SetOf cs bs) : c ∈ union as bs ↔ c ∈ as ∨ c ∈ bs :=
  (merges_union ha hb).2 c

theorem withoutOne_eq {rest : List Place → List Place}
    (hrest : ∀ {bs}, SetOf cs bs → rest bs = as.filter fun c => decide (c ∉ bs))
    (ha : SetOf cs (a :: as)) (hb : SetOf cs bs) :
    withoutOne a rest bs = (a :: as).filter fun c => decide (c ∉ bs) := by
  obtain ⟨hatext, hfirst, -⟩ := setOf_cons.mp ha
  induction bs with
  | nil => simp [withoutOne, hrest setOf_nil]
  | cons b bs ih =>
    obtain ⟨hbtext, -, hbs⟩ := setOf_cons.mp hb
    -- a place that is not `b` is taken out by `b :: bs` when it is taken out by `bs`
    have hskip : ∀ cs : List Place, b ∉ cs → cs.filter (fun c => decide (c ∉ b :: bs)) =
        cs.filter fun c => decide (c ∉ bs) := by
      intro cs hb
      refine List.filter_congr fun c hc => ?_
      have hne : c ≠ b := fun h => hb (h ▸ hc)
      simp [hne]
    rw [withoutOne]
    split
    · rename_i hab
      have hnot : a ∉ b :: bs := fun h => Nat.not_lt.mpr (hb.le_of_mem h) hab
      rw [hrest hb, List.filter_cons_of_pos (by simpa using hnot)]
    · split
      · rename_i hba
        have hnot : b ∉ a :: as := fun h => Nat.not_lt.mpr (ha.le_of_mem h) hba
        rw [ih hbs, hskip _ hnot]
      · obtain rfl : a = b := eq_of_index hatext hbtext (by omega)
        have hnot : a ∉ as := fun h => Nat.lt_irrefl _ (hfirst a h)
        rw [hrest hbs, List.filter_cons_of_neg (by simp), hskip _ hnot]

/-- Taking places out of a set leaves those that are not among them. -/
theorem without_eq (ha : SetOf cs as) (hb : SetOf cs bs) :
    without as bs = as.filter fun c => decide (c ∉ bs) := by
  induction as generalizing bs with
  | nil => rfl
  | cons a as ih => exact withoutOne_eq (fun hbs => ih (setOf_cons.mp ha).2.2 hbs) ha hb

theorem mem_without (ha : SetOf cs as) (hb : SetOf cs bs) :
    c ∈ without as bs ↔ c ∈ as ∧ c ∉ bs := by
  rw [without_eq ha hb, List.mem_filter, decide_eq_true_eq]

theorem SetOf.without (ha : SetOf cs as) (hb : SetOf cs bs) : SetOf cs (without as bs) := by
  rw [without_eq ha hb]
  exact ha.sublist List.filter_sublist

end SetOf

/-! ## Functions of sets that follow a relation -/

/-- The relation leads from the first place to the second in `n` rounds. -/
inductive Rounds (R : Place → Place → Prop) : Nat → Place → Place → Prop where
  | none (a : Place) : Rounds R 0 a a
  | more {n : Nat} {a b c : Place} (h : R a b) (hr : Rounds R n b c) : Rounds R (n + 1) a c

/-- From sets of places of a text, `next` goes to the sets of the places that a relation leads
to. -/
structure Follows (cs : List Char) (next : List Place → List Place) (R : Place → Place → Prop) :
    Prop where
  setOf : ∀ {as}, SetOf cs as → SetOf cs (next as)
  mem_iff : ∀ {as}, SetOf cs as → ∀ b, b ∈ next as ↔ ∃ a ∈ as, R a b

/-- The relation leads from no place to one before it. -/
def Onward (R : Place → Place → Prop) : Prop := ∀ a b, R a b → a = b ∨ a.index < b.index

section Rounds
variable {R : Place → Place → Prop} {a b c : Place} {m n : Nat}

theorem rounds_zero_iff : Rounds R 0 a b ↔ a = b :=
  ⟨fun h => by cases h; rfl, fun h => h ▸ .none a⟩

theorem rounds_succ_iff : Rounds R (n + 1) a c ↔ ∃ b, R a b ∧ Rounds R n b c :=
  ⟨fun h => by cases h with | more h hr => exact ⟨_, h, hr⟩, fun ⟨_, h, hr⟩ => .more h hr⟩

theorem rounds_add_iff : Rounds R (m + n) a c ↔ ∃ b, Rounds R m a b ∧ Rounds R n b c := by
  induction m generalizing a with
  | zero =>
    rw [Nat.zero_add]
    constructor
    · intro h
      exact ⟨a, .none a, h⟩
    · rintro ⟨b, h, hr⟩
      exact rounds_zero_iff.mp h ▸ hr
  | succ m ih =>
    rw [Nat.add_right_comm, rounds_succ_iff]
    constructor
    · rintro ⟨x, hx, h⟩
      obtain ⟨b, hm, hn⟩ := ih.mp h
      exact ⟨b, .more hx hm, hn⟩
    · rintro ⟨b, hm, hn⟩
      obtain ⟨x, hx, h⟩ := rounds_succ_iff.mp hm
      exact ⟨x, hx, ih.mpr ⟨b, h, hn⟩⟩

theorem Onward.index_le (onward : Onward R) (h : R a b) : a.index ≤ b.index := by
  rcases onward a b h with rfl | h
  · exact Nat.le_refl _
  · exact Nat.le_of_lt h

theorem Onward.rounds_index_le (onward : Onward R) (h : Rounds R n a b) :
    a.index ≤ b.index := by
  induction h with
  | none a => exact Nat.le_refl _
  | more h _ ih => exact Nat.le_trans (onward.index_le h) ih

/-- Rounds that stay at a place can be left out, so the distance bounds the others. -/
theorem Onward.exists_rounds_le (onward : Onward R) (h : Rounds R (n + 1) a b) :
    ∃ m ≤ b.index - a.index, Rounds R (m + 1) a b := by
  induction n generalizing a with
  | zero => exact ⟨0, Nat.zero_le _, h⟩
  | succ n ih =>
    obtain ⟨x, hx, hr⟩ := rounds_succ_iff.mp h
    obtain ⟨m, hm, hr⟩ := ih hr
    rcases onward a x hx with rfl | hlt
    · exact ⟨m, hm, hr⟩
    · have := onward.rounds_index_le hr
      exact ⟨m + 1, by omega, .more hx hr⟩

end Rounds

section Follows
variable {cs : List Char} {next next' : List Place → List Place} {R R' : Place → Place → Prop}
  {a c : Place} {as begun fresh : List Place} {n rounds : Nat}

theorem follows_id : Follows cs (fun as => as) Eq :=
  ⟨fun has => has, fun _ b => by simp⟩

/-- One relation after the other. -/
theorem Follows.comp (h : Follows cs next R) (h' : Follows cs next' R') :
    Follows cs (fun as => next' (next as)) (fun a c => ∃ b, R a b ∧ R' b c) := by
  refine ⟨fun has => h'.setOf (h.setOf has), fun {as} has c => ?_⟩
  rw [h'.mem_iff (h.setOf has)]
  constructor
  · rintro ⟨b, hb, hbc⟩
    obtain ⟨a, ha, hab⟩ := (h.mem_iff has b).mp hb
    exact ⟨a, ha, b, hab, hbc⟩
  · rintro ⟨a, ha, b, hab, hbc⟩
    exact ⟨b, (h.mem_iff has b).mpr ⟨a, ha, hab⟩, hbc⟩

/-- Either of two relations. -/
theorem Follows.union (h : Follows cs next R) (h' : Follows cs next' R') :
    Follows cs (fun as => union (next as) (next' as)) (fun a b => R a b ∨ R' a b) := by
  refine ⟨fun has => (h.setOf has).union (h'.setOf has), fun {as} has b => ?_⟩
  rw [mem_union (h.setOf has) (h'.setOf has), h.mem_iff has, h'.mem_iff has, ← exists_or]
  simp only [and_or_left]

theorem Follows.congr (h : Follows cs next R) (hR : ∀ a ∈ all cs, ∀ b, R a b ↔ R' a b) :
    Follows cs next R' := by
  refine ⟨h.setOf, fun {as} has b => (h.mem_iff has b).trans ?_⟩
  exact exists_congr fun a => and_congr_right fun ha => hR a (has.ofText a ha) b

theorem Follows.iterate (h : Follows cs next R) (n : Nat) :
    Follows cs (next^[n]) (Rounds R n) := by
  induction n with
  | zero => exact follows_id.congr fun _ _ _ => rounds_zero_iff.symm
  | succ n ih => exact (h.comp ih).congr fun _ _ _ => rounds_succ_iff.symm

/-- A set that stays as it is ends the search, which loses nothing by it. -/
theorem again_eq_iterate (h : Follows cs next R) (n : Nat) (has : SetOf cs as) :
    again next n as = next^[n] as := by
  induction n generalizing as with
  | zero => rfl
  | succ n ih =>
    rw [again]
    split
    · rename_i hindex
      have hfixed : next as = as := (h.setOf has).eq_of_map_index has hindex
      exact (Function.iterate_fixed hfixed (n + 1)).symm
    · exact ih (h.setOf has)

theorem Follows.again (h : Follows cs next R) (n : Nat) :
    Follows cs (again next n) (Rounds R n) := by
  refine ⟨fun has => ?_, fun has => ?_⟩
  · exact again_eq_iterate h n has ▸ (h.iterate n).setOf has
  · exact again_eq_iterate h n has ▸ (h.iterate n).mem_iff has

/-! ## The search from new places -/

/-- The state of the search: `fresh` is due, and what the other places lead to is found. -/
structure Searched (cs : List Char) (R : Place → Place → Prop) (begun fresh : List Place) :
    Prop where
  setOf : SetOf cs begun
  setOf_fresh : SetOf cs fresh
  due : ∀ a ∈ fresh, a ∈ begun
  found : ∀ a ∈ begun, a ∉ fresh → ∀ b, R a b → b ∈ begun

theorem searched_self (has : SetOf cs as) : Searched cs R as as :=
  ⟨has, has, fun _ h => h, fun _ h h' => absurd h h'⟩

/-- What lies before the first place that is due can be forgotten. -/
theorem Searched.onwards (onward : Onward R) (h : Searched cs R begun (a :: fresh)) :
    Searched cs R (begun.dropWhile fun b => decide (b.index < a.index)) (a :: fresh) := by
  refine ⟨h.setOf.sublist (List.dropWhile_sublist _), h.setOf_fresh, fun b hb => ?_, ?_⟩
  · exact (mem_dropWhile h.setOf _).mpr ⟨h.due b hb, h.setOf_fresh.le_of_mem hb⟩
  · intro b hb hfresh c hbc
    obtain ⟨hb, hle⟩ := (mem_dropWhile h.setOf _).mp hb
    exact (mem_dropWhile h.setOf _).mpr
      ⟨h.found b hb hfresh c hbc, Nat.le_trans hle (onward.index_le hbc)⟩

/-- One round: what is new among the places found is due next. -/
theorem Searched.round (hnext : Follows cs next R) (h : Searched cs R begun fresh) :
    let new := without (next fresh) begun
    Searched cs R (union begun new) new := by
  intro new
  have hfound := hnext.setOf h.setOf_fresh
  have hnew : SetOf cs new := hfound.without h.setOf
  refine ⟨h.setOf.union hnew, hnew, fun a ha => (mem_union h.setOf hnew).mpr (.inr ha), ?_⟩
  intro a ha hanew b hab
  have hbegun : a ∈ begun := ((mem_union h.setOf hnew).mp ha).resolve_right hanew
  refine (mem_union h.setOf hnew).mpr ?_
  by_cases hb : b ∈ begun
  · exact .inl hb
  · by_cases hfresh : a ∈ fresh
    · have hbnext : b ∈ next fresh := (hnext.mem_iff h.setOf_fresh b).mpr ⟨a, hfresh, hab⟩
      exact .inr ((mem_without hfound h.setOf).mpr ⟨hbnext, hb⟩)
    · exact absurd (h.found a hbegun hfresh b hab) hb

theorem setOf_reach (hnext : Follows cs next R) (onward : Onward R) (rounds : Nat)
    (h : Searched cs R begun fresh) : SetOf cs (reach next rounds begun fresh) := by
  induction rounds generalizing begun fresh with
  | zero => exact setOf_nil
  | succ rounds ih =>
    cases fresh with
    | nil => exact setOf_nil
    | cons a fresh =>
      have hround := (h.onwards onward).round hnext
      exact (hnext.setOf h.setOf_fresh).union (ih hround)

theorem mem_reach_cons (hnext : Follows cs next R) (onward : Onward R)
    (h : Searched cs R begun (a :: fresh)) :
    let begun' := begun.dropWhile fun b => decide (b.index < a.index)
    let new := without (next (a :: fresh)) begun'
    c ∈ reach next (rounds + 1) begun (a :: fresh) ↔
      c ∈ next (a :: fresh) ∨ c ∈ reach next rounds (union begun' new) new := by
  intro begun' new
  have hround := (h.onwards onward).round hnext
  exact mem_union (hnext.setOf h.setOf_fresh) (setOf_reach hnext onward rounds hround)

/-- What is found is reached from a place that was due. -/
theorem rounds_of_mem_reach (hnext : Follows cs next R) (onward : Onward R)
    (h : Searched cs R begun fresh) (hc : c ∈ reach next rounds begun fresh) :
    ∃ a ∈ fresh, ∃ n, n < rounds ∧ Rounds R (n + 1) a c := by
  induction rounds generalizing begun fresh with
  | zero => cases hc
  | succ rounds ih =>
    cases fresh with
    | nil => cases hc
    | cons a fresh =>
      rcases (mem_reach_cons hnext onward h).mp hc with hc | hc
      · obtain ⟨b, hb, hbc⟩ := (hnext.mem_iff h.setOf_fresh c).mp hc
        exact ⟨b, hb, 0, Nat.succ_pos _, .more hbc (.none c)⟩
      · have hbefore := h.onwards onward
        obtain ⟨b, hb, n, hn, hr⟩ := ih (hbefore.round hnext) hc
        obtain ⟨hb, -⟩ := (mem_without (hnext.setOf h.setOf_fresh) hbefore.setOf).mp hb
        obtain ⟨x, hx, hxb⟩ := (hnext.mem_iff h.setOf_fresh b).mp hb
        exact ⟨x, hx, n + 1, Nat.succ_lt_succ hn, .more hxb hr⟩

/-- What a place leads to in as many rounds is found, unless a place that is not due leads to
it in one round, so that it was found before. -/
theorem mem_reach_of_rounds (hnext : Follows cs next R) (onward : Onward R)
    (h : Searched cs R begun fresh) (ha : a ∈ begun) (hn : n < rounds)
    (hr : Rounds R (n + 1) a c) :
    c ∈ reach next rounds begun fresh ∨ ∃ b ∈ begun, b ∉ fresh ∧ R b c := by
  induction rounds generalizing begun fresh a n with
  | zero => exact absurd hn (Nat.not_lt_zero n)
  | succ rounds ih =>
    -- within one round of the search the way is followed as long as it stays where it was begun
    induction n generalizing a with
    | zero =>
      obtain ⟨x, hax, hx⟩ := rounds_succ_iff.mp hr
      obtain rfl := rounds_zero_iff.mp hx
      by_cases hfresh : a ∈ fresh
      · cases fresh with
        | nil => cases hfresh
        | cons first fresh =>
          have hnear := (hnext.mem_iff h.setOf_fresh x).mpr ⟨a, hfresh, hax⟩
          exact .inl ((mem_reach_cons hnext onward h).mpr (.inl hnear))
      · exact .inr ⟨a, ha, hfresh, hax⟩
    | succ n ih' =>
      obtain ⟨x, hax, hx⟩ := rounds_succ_iff.mp hr
      by_cases hbegun : x ∈ begun
      · exact ih' hbegun (Nat.lt_of_succ_lt hn) hx
      · by_cases hfresh : a ∈ fresh
        · cases fresh with
          | nil => cases hfresh
          | cons first fresh =>
            have hbefore := h.onwards onward
            have hround := hbefore.round hnext
            have hfound := hnext.setOf h.setOf_fresh
            have hbegun' : x ∉ begun.dropWhile fun b => decide (b.index < first.index) :=
              fun hx => hbegun ((List.dropWhile_sublist _).subset hx)
            have hnew := (mem_without hfound hbefore.setOf).mpr
              ⟨(hnext.mem_iff h.setOf_fresh x).mpr ⟨a, hfresh, hax⟩, hbegun'⟩
            rcases ih hround (hround.due x hnew) (Nat.lt_of_succ_lt_succ hn) hx with
              hc | ⟨b, hb, hbnew, hbc⟩
            · exact .inl ((mem_reach_cons hnext onward h).mpr (.inr hc))
            · have hb := ((mem_union hbefore.setOf hround.setOf_fresh).mp hb).resolve_right hbnew
              by_cases hbfresh : b ∈ first :: fresh
              · have hnear := (hnext.mem_iff h.setOf_fresh c).mpr ⟨b, hbfresh, hbc⟩
                exact .inl ((mem_reach_cons hnext onward h).mpr (.inl hnear))
              · exact .inr ⟨b, (List.dropWhile_sublist _).subset hb, hbfresh, hbc⟩
        · exact absurd (h.found a ha hfresh x hax) hbegun

/-- The search follows a relation at least once and at most `rounds` times. -/
theorem Follows.reach (hnext : Follows cs next R) (onward : Onward R) (rounds : Nat) :
    Follows cs (fun as => reach next rounds as as)
      (fun a b => ∃ n, n < rounds ∧ Rounds R (n + 1) a b) := by
  refine ⟨fun has => setOf_reach hnext onward rounds (searched_self has), fun has c => ?_⟩
  constructor
  · exact rounds_of_mem_reach hnext onward (searched_self has)
  · rintro ⟨a, ha, n, hn, hr⟩
    rcases mem_reach_of_rounds hnext onward (searched_self has) ha hn hr with hc | ⟨b, hb, hb', -⟩
    · exact hc
    · exact absurd hb hb'

end Follows

end Place
end SchemaEngine
