import SchemaEngine.Failure.Basic

/-!
# Keys and paths

A key is the text of a path.  It says less than the path: a point inside a name looks
like the point between two segments, and the name `3` looks like the index `3`.  When
no name has a point in it, a key gives back the texts of all segments
(`Path.key?_inj`), so that two paths with different segments of one kind at the
first place where they differ have different keys (`Path.Apart.key?_ne`).  When, besides, no name
is the text of an index, a key gives back the path (`Path.key_identifies`).
-/

namespace SchemaEngine

/-- A text without a point. -/
def Text.PointFree (s : String) : Prop := '.' ∉ s.toList

/-- Every name in a path is without a point. -/
def Path.PointFree (p : Path) : Prop :=
  ∀ name, .field name ∈ p.segments → Text.PointFree name

/-! ## Splitting a text at its points -/

/-- Two lists cut at the same mark, which neither has before the cut, are cut at the
same place. -/
theorem append_mark_inj {α : Type} {mark : α} {xs ys us vs : List α} (hx : mark ∉ xs)
    (hy : mark ∉ ys) (h : xs ++ mark :: us = ys ++ mark :: vs) : xs = ys ∧ us = vs := by
  induction xs generalizing ys with
  | nil =>
    cases ys with
    | nil => exact ⟨rfl, (List.cons.inj h).2⟩
    | cons y ys => exact absurd (List.mem_cons.mpr (.inl (List.cons.inj h).1)) hy
  | cons x xs ih =>
    cases ys with
    | nil => exact absurd (List.mem_cons.mpr (.inl (List.cons.inj h).1.symm)) hx
    | cons y ys =>
      obtain ⟨rfl, ht⟩ := List.cons.inj h
      obtain ⟨rfl, rfl⟩ := ih (fun hm => hx (List.mem_cons_of_mem _ hm))
        (fun hm => hy (List.mem_cons_of_mem _ hm)) ht
      exact ⟨rfl, rfl⟩

theorem Text.joined_cons_cons (separator s t : String) (rest : List String) :
    Text.joined separator (s :: t :: rest) =
      s ++ separator ++ Text.joined separator (t :: rest) := rfl

theorem Text.toList_joined_point (s t : String) (rest : List String) :
    (Text.joined "." (s :: t :: rest)).toList =
      s.toList ++ '.' :: (Text.joined "." (t :: rest)).toList := by
  rw [Text.joined_cons_cons, String.toList_append, String.toList_append, List.append_assoc]
  rfl

/-- **Texts without a point, joined by points, can be told apart again.** -/
theorem Text.joined_point_inj {ss ts : List String} (hss : ∀ s ∈ ss, Text.PointFree s)
    (hts : ∀ t ∈ ts, Text.PointFree t) (hs : ss ≠ []) (ht : ts ≠ [])
    (h : Text.joined "." ss = Text.joined "." ts) : ss = ts := by
  induction ss generalizing ts with
  | nil => exact absurd rfl hs
  | cons s rest ih =>
    cases ts with
    | nil => exact absurd rfl ht
    | cons t others =>
      have hsp : '.' ∉ s.toList := hss s (List.mem_cons_self ..)
      have htp : '.' ∉ t.toList := hts t (List.mem_cons_self ..)
      cases rest with
      | nil =>
        cases others with
        | nil => exact congrArg (· :: []) h
        | cons u others =>
          have hpoint : '.' ∈ s.toList := by
            rw [show s = Text.joined "." (t :: u :: others) from h, Text.toList_joined_point]
            simp
          exact absurd hpoint hsp
      | cons r rest =>
        cases others with
        | nil =>
          have hpoint : '.' ∈ t.toList := by
            rw [show t = Text.joined "." (s :: r :: rest) from h.symm, Text.toList_joined_point]
            simp
          exact absurd hpoint htp
        | cons u others =>
          have hlist := congrArg String.toList h
          rw [Text.toList_joined_point, Text.toList_joined_point] at hlist
          obtain ⟨hst, hrest⟩ := append_mark_inj hsp htp hlist
          have hst : s = t := String.toList_inj.mp hst
          have htail := ih (fun x hx => hss x (List.mem_cons_of_mem _ hx))
            (fun x hx => hts x (List.mem_cons_of_mem _ hx)) (List.cons_ne_nil _ _)
            (List.cons_ne_nil _ _) (String.toList_inj.mp hrest)
          rw [hst, htail]

/-! ## Segments and paths -/

theorem Segment.render_index_inj {i j : Nat}
    (h : (Segment.index i).render = (Segment.index j).render) : i = j := by
  have hd : Nat.toDigits 10 i = Nat.toDigits 10 j := by
    rw [← Nat.toList_repr, ← Nat.toList_repr]
    exact congrArg String.toList h
  rw [← Nat.ofDigitChars_ten_toDigits (n := i), hd, Nat.ofDigitChars_ten_toDigits]

theorem Segment.pointFree_index (i : Nat) : Text.PointFree (Segment.index i).render := by
  intro h
  have hd : '.' ∈ Nat.toDigits 10 i := by rw [← Nat.toList_repr]; exact h
  have := Nat.isDigit_of_mem_toDigits (by omega) (by omega) hd
  exact absurd this (by decide)

namespace Path

theorem isRoot_iff {p : Path} : p.isRoot = true ↔ p = root := by
  obtain ⟨segments⟩ := p
  cases segments <;> simp [isRoot, root]

theorem PointFree.render_segment {p : Path} (h : p.PointFree) {t : String}
    (ht : t ∈ p.segments.map Segment.render) : Text.PointFree t := by
  obtain ⟨s, hs, rfl⟩ := List.mem_map.mp ht
  cases s with
  | field name => exact h name hs
  | index i => exact Segment.pointFree_index i

/-- **A key gives back the texts of the segments**, when no name has a point. -/
theorem key?_inj {p q : Path} (hp : p.PointFree) (hq : q.PointFree) (h : p.key? = q.key?) :
    p.segments.map Segment.render = q.segments.map Segment.render := by
  obtain ⟨ps⟩ := p
  obtain ⟨qs⟩ := q
  cases ps with
  | nil =>
    cases qs with
    | nil => rfl
    | cons b qs => simp [key?, isRoot] at h
  | cons a ps =>
    cases qs with
    | nil => simp [key?, isRoot] at h
    | cons b qs =>
      have hr : (⟨a :: ps⟩ : Path).render = (⟨b :: qs⟩ : Path).render := by
        simpa [key?, isRoot] using h
      exact Text.joined_point_inj (fun _ => hp.render_segment) (fun _ => hq.render_segment)
        (List.cons_ne_nil _ _) (List.cons_ne_nil _ _) hr

end Path

/-! ## Paths that part -/

/-- Two segments at which paths part: different names, or indices with the smaller one
first. -/
def Segment.Apart : Segment → Segment → Prop
  | .field a, .field b => a ≠ b
  | .index i, .index j => i < j
  | _, _ => False

/-- Two paths that share some segments and then part. -/
def Path.Apart (p q : Path) : Prop :=
  ∃ shared a b ps qs, p.segments = shared ++ a :: ps ∧ q.segments = shared ++ b :: qs ∧
    Segment.Apart a b

theorem Segment.Apart.render_ne {a b : Segment} (h : a.Apart b) : a.render ≠ b.render := by
  intro hr
  cases a with
  | field x =>
    cases b with
    | field y => exact h hr
    | index j => exact h
  | index i =>
    cases b with
    | field y => exact h
    | index j => exact absurd (Segment.render_index_inj hr) (Nat.ne_of_lt h)

theorem Segment.Apart.ne {a b : Segment} (h : a.Apart b) : a ≠ b :=
  fun he => h.render_ne (by rw [he])

namespace Path

theorem Apart.of_head {a b : Segment} (h : a.Apart b) (p q : Path) :
    (p.under a).Apart (q.under b) :=
  ⟨[], a, b, p.segments, q.segments, rfl, rfl, h⟩

theorem Apart.under {p q : Path} (h : p.Apart q) (s : Segment) :
    (p.under s).Apart (q.under s) := by
  obtain ⟨shared, a, b, ps, qs, hp, hq, hab⟩ := h
  exact ⟨s :: shared, a, b, ps, qs, by rw [Path.under, hp]; rfl, by rw [Path.under, hq]; rfl, hab⟩

/-- The texts of the segments of two such paths differ. -/
theorem Apart.map_render_ne {p q : Path} (h : p.Apart q) :
    p.segments.map Segment.render ≠ q.segments.map Segment.render := by
  obtain ⟨shared, a, b, ps, qs, hp, hq, hab⟩ := h
  rw [hp, hq, List.map_append, List.map_append]
  intro he
  exact hab.render_ne (List.cons.inj (List.append_cancel_left he)).1

theorem Apart.key?_ne {p q : Path} (h : p.Apart q) (hp : p.PointFree) (hq : q.PointFree) :
    p.key? ≠ q.key? :=
  fun he => h.map_render_ne (key?_inj hp hq he)

theorem Apart.ne {p q : Path} (h : p.Apart q) : p ≠ q :=
  fun he => h.map_render_ne (by rw [he])

/-- Of two paths that part, neither begins with the other. -/
theorem Apart.not_prefix {p q : Path} (h : p.Apart q) :
    ¬ p.segments <+: q.segments ∧ ¬ q.segments <+: p.segments := by
  obtain ⟨shared, a, b, ps, qs, hp, hq, hab⟩ := h
  rw [hp, hq, List.prefix_append_right_inj, List.prefix_append_right_inj]
  have hne : a ≠ b := hab.ne
  exact ⟨fun hpre => hne (List.cons_prefix_cons.mp hpre).1,
    fun hpre => hne (List.cons_prefix_cons.mp hpre).1.symm⟩

theorem not_apart_root_left (p : Path) : ¬ root.Apart p := by
  rintro ⟨shared, a, b, ps, qs, hp, -, -⟩
  exact absurd hp.symm (by simp [root])

theorem not_apart_root_right (p : Path) : ¬ p.Apart root := by
  rintro ⟨shared, a, b, ps, qs, -, hq, -⟩
  exact absurd hq.symm (by simp [root])

end Path

/-! ## Names and indices -/

/-- No name in the first path is the text of an index in the second. -/
def Path.Unmixed (p q : Path) : Prop :=
  ∀ name i, .field name ∈ p.segments → .index i ∈ q.segments → name ≠ (Segment.index i).render

theorem Segment.render_index_ne_empty (i : Nat) : (Segment.index i).render ≠ "" := by
  intro h
  have hdigits : Nat.toDigits 10 i = [] := by
    rw [← Nat.toList_repr]
    exact congrArg String.toList h
  exact Nat.toDigits_ne_nil hdigits

namespace Path
variable {p q : Path}

/-- Where names and indices have different texts, the texts of the segments tell the segments. -/
theorem Unmixed.segments_inj (hpq : p.Unmixed q) (hqp : q.Unmixed p)
    (h : p.segments.map Segment.render = q.segments.map Segment.render) : p = q := by
  obtain ⟨ps⟩ := p
  obtain ⟨qs⟩ := q
  induction ps generalizing qs with
  | nil =>
    obtain rfl : qs = [] := List.map_eq_nil_iff.mp h.symm
    rfl
  | cons a ps ih =>
    cases qs with
    | nil => cases h
    | cons b qs =>
      obtain ⟨hab, hrest⟩ := List.cons.inj h
      have hpqRest : Unmixed ⟨ps⟩ ⟨qs⟩ := fun name i hn hi =>
        hpq name i (List.mem_cons_of_mem _ hn) (List.mem_cons_of_mem _ hi)
      have hqpRest : Unmixed ⟨qs⟩ ⟨ps⟩ := fun name i hn hi =>
        hqp name i (List.mem_cons_of_mem _ hn) (List.mem_cons_of_mem _ hi)
      obtain rfl : ps = qs := congrArg segments (ih qs hpqRest hqpRest hrest)
      have ha : a ∈ a :: ps := List.mem_cons_self ..
      have hb : b ∈ b :: ps := List.mem_cons_self ..
      cases a with
      | field x =>
        cases b with
        | field y =>
          obtain rfl : x = y := hab
          rfl
        | index j => exact absurd hab (hpq x j ha hb)
      | index i =>
        cases b with
        | field y => exact absurd hab.symm (hqp y i hb ha)
        | index j => rw [Segment.render_index_inj hab]

theorem key?_eq_none_iff : p.key? = none ↔ p = root := by
  rw [key?, ite_eq_left_iff, ← isRoot_iff]
  simp

/-- The empty key is the key of the empty name. -/
theorem key?_eq_empty_iff : p.key? = some "" ↔ p = root.under (.field "") := by
  obtain ⟨segments⟩ := p
  cases segments with
  | nil => simp [key?, isRoot, root, under]
  | cons a rest =>
    have hkey : (⟨a :: rest⟩ : Path).key? = some (⟨a :: rest⟩ : Path).render := rfl
    rw [hkey, Option.some.injEq]
    cases rest with
    | nil =>
      have hrender : (⟨[a]⟩ : Path).render = a.render := rfl
      rw [hrender]
      cases a with
      | field name => simp [Segment.render, root, under]
      | index i => simp [Segment.render_index_ne_empty, root, under]
    | cons b rest =>
      have hpoint : (⟨a :: b :: rest⟩ : Path).render ≠ "" := fun h => by
        have hlist := congrArg String.toList h
        rw [render, List.map_cons, List.map_cons, Text.toList_joined_point] at hlist
        exact absurd hlist (by simp)
      simp [hpoint, root, under]

/-- **Keys identify paths** in which no name has a point and no name is the text of an index: two
paths with one key have the same segments of the same kinds.  The path without segments has no
key, and the empty key is that of the empty name. -/
theorem key_identifies (hp : p.PointFree) (hq : q.PointFree) (hpq : p.Unmixed q)
    (hqp : q.Unmixed p) :
    (p.key? = q.key? ↔ p = q) ∧ (∀ r : Path, r.key? = none ↔ r = root) ∧
      ∀ r : Path, r.key? = some "" ↔ r = root.under (.field "") :=
  ⟨⟨fun h => hpq.segments_inj hqp (key?_inj hp hq h), fun h => by rw [h]⟩,
    fun _ => key?_eq_none_iff, fun _ => key?_eq_empty_iff⟩

/-- The empty name stands before an index in one path and behind one in the other. -/
theorem key_identifies_of_emptyName :
    let p : Path := ⟨[.field "", .index 10]⟩
    let q : Path := ⟨[.index 1, .field "", .field "sizes"]⟩
    p.PointFree ∧ q.PointFree ∧ p.Unmixed q ∧ q.Unmixed p ∧ p.key? ≠ q.key? ∧
      p.key? ≠ none ∧ q.key? ≠ some "" := by
  intro p q
  have hp : p.PointFree := by simp [p, PointFree, Text.PointFree]
  have hq : q.PointFree := by simp [q, PointFree, Text.PointFree]
  have hpq : p.Unmixed q := by
    simpa [p, q, Unmixed] using (Segment.render_index_ne_empty 1).symm
  have hqp : q.Unmixed p := by
    have hsizes : "sizes" ≠ (Segment.index 10).render := by decide
    simpa [p, q, Unmixed, hsizes] using (Segment.render_index_ne_empty 10).symm
  obtain ⟨hkeys, hnone, hempty⟩ := key_identifies hp hq hpq hqp
  exact ⟨hp, hq, hpq, hqp, fun h => absurd (hkeys.mp h) (by decide),
    fun h => absurd ((hnone p).mp h) (by decide), fun h => absurd ((hempty q).mp h) (by decide)⟩

/-- A name with a point looks like two names. -/
example : (⟨[.field "a.b"]⟩ : Path).key? = (⟨[.field "a", .field "b"]⟩ : Path).key? := by decide

/-- A name can look like an index. -/
example : (⟨[.field "3"]⟩ : Path).key? = (⟨[.index 3]⟩ : Path).key? := by decide

end Path

end SchemaEngine
