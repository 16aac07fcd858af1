/-!
# Named entries in order

A list of named entries that keeps the order in which names first came.  `put`
gives a name a new entry: a name that is already there keeps its place, a new one
goes last.  Lists made by `put` alone hold every name once (`Distinct`), and the
laws of `put` are those of a map: `find?_put` reads the entry back at its own name
and finds every other name undisturbed.
-/

namespace SchemaEngine

/-- Entries by name, in order. -/
abbrev Entries (α : Type u) := List (String × α)

namespace Entries

variable {α : Type u}

/-- The entry at a name. -/
def find? (name : String) : Entries α → Option α
  | [] => none
  | (key, x) :: rest => if key = name then some x else find? name rest

/-- The names, in order. -/
def names (es : Entries α) : List String := es.map Prod.fst

/-- Whether a name has an entry. -/
def has (name : String) (es : Entries α) : Bool := (es.find? name).isSome

/-- Gives a name an entry. -/
def put (name : String) (x : α) : Entries α → Entries α
  | [] => [(name, x)]
  | (key, y) :: rest => if key = name then (key, x) :: rest else (key, y) :: put name x rest

/-- The entries of a list of pairs: a repeated name keeps its first place and takes
its last entry. -/
def ofList (pairs : List (String × α)) : Entries α :=
  pairs.foldl (fun es p => es.put p.1 p.2) []

/-- Every name has one entry. -/
def Distinct (es : Entries α) : Prop := es.names.Nodup

instance (es : Entries α) : Decidable es.Distinct := inferInstanceAs (Decidable es.names.Nodup)

/-- Puts an entry in front of the first name that is greater. -/
def insertByName (name : String) (x : α) : Entries α → Entries α
  | [] => [(name, x)]
  | (key, y) :: rest =>
    if name < key then (name, x) :: (key, y) :: rest else (key, y) :: insertByName name x rest

/-- The entries in the order of their names. -/
def sortByName : Entries α → Entries α
  | [] => []
  | (name, x) :: rest => insertByName name x (sortByName rest)

/-! ## Laws -/

@[simp] theorem find?_put (name other : String) (x : α) (es : Entries α) :
    (es.put name x).find? other = if name = other then some x else es.find? other := by
  induction es with
  | nil => simp [put, find?]
  | cons e rest ih =>
    obtain ⟨key, y⟩ := e
    by_cases hk : key = name
    · subst hk
      by_cases ho : key = other <;> simp [put, find?, ho]
    · by_cases ho : key = other
      · subst ho
        simp [put, find?, hk, Ne.symm hk]
      · simp [put, find?, hk, ho, ih]

theorem names_put (name : String) (x : α) (es : Entries α) :
    (es.put name x).names = if name ∈ es.names then es.names else es.names ++ [name] := by
  induction es with
  | nil => simp [put, names]
  | cons e rest ih =>
    obtain ⟨key, y⟩ := e
    by_cases hk : key = name
    · subst hk; simp [put, names]
    · simp only [names, put, hk, if_false, List.map_cons] at ih ⊢
      rw [ih]
      by_cases hm : name ∈ List.map Prod.fst rest <;> simp [hm, Ne.symm hk]

theorem put_of_new {name : String} {x : α} {es : Entries α} (h : name ∉ es.names) :
    es.put name x = es ++ [(name, x)] := by
  induction es with
  | nil => rfl
  | cons e rest ih =>
    obtain ⟨key, y⟩ := e
    obtain ⟨hkey, hrest⟩ := not_or.mp fun hm => h (List.mem_cons.mpr hm)
    rw [put, if_neg (Ne.symm hkey), ih hrest, List.cons_append]

theorem distinct_put {name : String} {x : α} {es : Entries α} (h : es.Distinct) :
    (es.put name x).Distinct := by
  rw [Distinct, names_put]
  split
  · exact h
  · next hm =>
    exact List.nodup_append.2 ⟨h, by simp, fun a ha b hb => by
      rintro rfl; exact hm (by simpa using List.mem_singleton.1 hb ▸ ha)⟩

theorem mem_of_find? {name : String} {x : α} {es : Entries α} (h : es.find? name = some x) :
    (name, x) ∈ es := by
  induction es with
  | nil => cases h
  | cons e rest ih =>
    obtain ⟨key, y⟩ := e
    unfold find? at h
    split at h
    · next hk =>
      rw [hk, Option.some.inj h]
      exact List.mem_cons_self ..
    · exact List.mem_cons_of_mem _ (ih h)

theorem find?_eq_none {name : String} {es : Entries α} (h : name ∉ es.names) :
    es.find? name = none := by
  cases hf : es.find? name with
  | none => rfl
  | some x => exact absurd (List.mem_map_of_mem (mem_of_find? hf)) h

theorem find?_of_mem {name : String} {x : α} {es : Entries α} (h : es.Distinct)
    (hx : (name, x) ∈ es) : es.find? name = some x := by
  induction es with
  | nil => cases hx
  | cons e rest ih =>
    obtain ⟨key, y⟩ := e
    obtain ⟨hnew, hrest⟩ := List.nodup_cons.mp h
    rcases List.mem_cons.mp hx with he | hx
    · obtain ⟨rfl, rfl⟩ := Prod.mk.inj he
      exact if_pos rfl
    · have hne : key ≠ name := by
        rintro rfl
        exact hnew (List.mem_map.mpr ⟨(key, x), hx, rfl⟩)
      exact (if_neg hne).trans (ih hrest hx)

theorem mem_put {name : String} {x : α} {es : Entries α} {p : String × α}
    (h : p ∈ es.put name x) : p = (name, x) ∨ p ∈ es := by
  induction es with
  | nil => exact .inl (List.mem_singleton.mp h)
  | cons e rest ih =>
    obtain ⟨key, y⟩ := e
    unfold put at h
    split at h
    · next hk =>
      subst hk
      rcases List.mem_cons.mp h with h | h
      · exact .inl h
      · exact .inr (List.mem_cons_of_mem _ h)
    · rcases List.mem_cons.mp h with h | h
      · exact .inr (h ▸ List.mem_cons_self ..)
      · exact (ih h).imp id (List.mem_cons_of_mem _)

/-- Entries made from a list are entries of the list. -/
theorem mem_of_mem_ofList {pairs : List (String × α)} {p : String × α} (h : p ∈ ofList pairs) :
    p ∈ pairs := by
  have step : ∀ (ps : List (String × α)) (es : Entries α),
      p ∈ ps.foldl (fun es q => Entries.put q.1 q.2 es) es → p ∈ ps ∨ p ∈ es := by
    intro ps
    induction ps with
    | nil => exact fun es h => .inr h
    | cons q ps ih =>
      intro es h
      rcases ih _ h with h | h
      · exact .inl (List.mem_cons_of_mem _ h)
      · rcases mem_put h with h | h
        · exact .inl (h ▸ List.mem_cons_self ..)
        · exact .inr h
  exact (step pairs [] h).resolve_right List.not_mem_nil

/-- Entries made from a list hold every name once. -/
theorem distinct_ofList (pairs : List (String × α)) : (ofList pairs).Distinct := by
  have step : ∀ (ps : List (String × α)) (es : Entries α), es.Distinct →
      (ps.foldl (fun es p => Entries.put p.1 p.2 es) es).Distinct := by
    intro ps
    induction ps with
    | nil => intro es h; exact h
    | cons p ps ih => intro es h; exact ih _ (distinct_put h)
  exact step pairs [] (by simp [Distinct, names])

theorem ofList_concat (pairs : List (String × α)) (p : String × α) :
    ofList (pairs ++ [p]) = (ofList pairs).put p.1 p.2 := by
  rw [ofList, List.foldl_append]
  rfl

/-- Entries that hold every name once are made from themselves. -/
theorem ofList_eq_self {es : Entries α} (h : es.Distinct) : ofList es = es := by
  have step : ∀ ps es : Entries α, Distinct (es ++ ps) →
      ps.foldl (fun es p => Entries.put p.1 p.2 es) es = es ++ ps := by
    intro ps
    induction ps with
    | nil => exact fun es _ => (List.append_nil es).symm
    | cons p ps ih =>
      intro es h
      have hnew : p.1 ∉ es.names := by
        rw [Distinct, names, List.map_append, List.map_cons] at h
        exact fun hm => (List.nodup_append.mp h).2.2 _ hm _ (List.mem_cons_self ..) rfl
      rw [List.foldl_cons, put_of_new hnew, ih, List.append_assoc, List.singleton_append]
      rwa [List.append_assoc]
  exact step es [] h

/-- Every name has its last entry. -/
theorem find?_ofList (name : String) (pairs : List (String × α)) :
    (ofList pairs).find? name = find? name pairs.reverse := by
  rw [← List.reverse_reverse pairs, List.reverse_reverse pairs.reverse]
  induction pairs.reverse with
  | nil => rfl
  | cons p rest ih => rw [List.reverse_cons, ofList_concat, find?_put, ih, find?]

/-- The names stand where they first came. -/
theorem names_ofList (pairs : List (String × α)) :
    (ofList pairs).names = (names pairs).eraseDups := by
  rw [← List.reverse_reverse pairs]
  induction pairs.reverse with
  | nil => rfl
  | cons p rest ih =>
    have hnames : names (rest.reverse ++ [p]) = names rest.reverse ++ [p.1] := List.map_append
    rw [List.reverse_cons, ofList_concat, names_put, ih, hnames, List.eraseDups_append]
    by_cases hp : p.1 ∈ names rest.reverse <;> simp [List.removeAll, List.eraseDups_cons, hp]

theorem names_map {β : Type u} (f : α → β) (es : Entries α) :
    names (es.map fun p => (p.1, f p.2)) = es.names := by
  rw [names, List.map_map]
  rfl

theorem distinct_map {β : Type u} (f : α → β) {es : Entries α} (h : es.Distinct) :
    Distinct (es.map fun p => (p.1, f p.2)) := by
  rw [Distinct, names_map]
  exact h

/-! ## The order of names -/

theorem insertByName_perm (name : String) (x : α) (es : Entries α) :
    (es.insertByName name x).Perm ((name, x) :: es) := by
  induction es with
  | nil => exact .refl _
  | cons e rest ih =>
    unfold insertByName
    split
    · exact .refl _
    · exact (ih.cons e).trans (.swap _ _ _)

theorem sortByName_perm (es : Entries α) : es.sortByName.Perm es := by
  induction es with
  | nil => exact .refl _
  | cons e rest ih => exact (insertByName_perm e.1 e.2 _).trans (ih.cons e)

theorem pairwise_insertByName {name : String} {x : α} {es : Entries α}
    (h : es.Pairwise fun p q => p.1 ≤ q.1) :
    (es.insertByName name x).Pairwise fun p q => p.1 ≤ q.1 := by
  induction es with
  | nil => exact List.pairwise_singleton _ _
  | cons e rest ih =>
    obtain ⟨hfirst, hrest⟩ := List.pairwise_cons.mp h
    unfold insertByName
    split
    · next hlt =>
      have hle : name ≤ e.1 := String.not_lt.mp (String.lt_asymm hlt)
      refine List.pairwise_cons.mpr ⟨fun q hq => ?_, h⟩
      rcases List.mem_cons.mp hq with rfl | hq
      · exact hle
      · exact String.le_trans hle (hfirst q hq)
    · next hlt =>
      refine List.pairwise_cons.mpr ⟨fun q hq => ?_, ih hrest⟩
      rcases List.mem_cons.mp ((insertByName_perm name x rest).mem_iff.mp hq) with rfl | hq
      · exact String.not_lt.mp hlt
      · exact hfirst q hq

theorem pairwise_sortByName (es : Entries α) :
    es.sortByName.Pairwise fun p q => p.1 ≤ q.1 := by
  induction es with
  | nil => exact .nil
  | cons e rest ih => exact pairwise_insertByName ih

/-- In the order of their names, entries are the same when they were the same in some
order. -/
theorem sortByName_eq_iff {es fs : Entries α} (h : es.Distinct) :
    es.sortByName = fs.sortByName ↔ es.Perm fs := by
  constructor
  · intro heq
    exact (sortByName_perm es).symm.trans (heq ▸ sortByName_perm fs)
  · intro hperm
    have hsorted : es.sortByName.Perm fs.sortByName :=
      (sortByName_perm es).trans (hperm.trans (sortByName_perm fs).symm)
    refine hsorted.eq_of_pairwise ?_ (pairwise_sortByName es) (pairwise_sortByName fs)
    intro p q hp hq hpq hqp
    have hp : p ∈ es := (sortByName_perm es).mem_iff.mp hp
    have hq : q ∈ es := hperm.mem_iff.mpr ((sortByName_perm fs).mem_iff.mp hq)
    have hname : p.1 = q.1 := String.le_antisymm hpq hqp
    have hfind : es.find? p.1 = some q.2 := by
      rw [hname]
      exact find?_of_mem h hq
    rw [find?_of_mem h hp] at hfind
    exact Prod.ext hname (Option.some.inj hfind)

theorem distinct_sortByName {es : Entries α} (h : es.Distinct) : es.sortByName.Distinct :=
  ((sortByName_perm es).map Prod.fst).nodup_iff.mpr h

theorem sortByName_sortByName {es : Entries α} (h : es.Distinct) :
    es.sortByName.sortByName = es.sortByName :=
  (sortByName_eq_iff (distinct_sortByName h)).mpr (sortByName_perm es)

/-- Entries that are the same in some order, with the names in the same order, are the
same. -/
theorem eq_of_perm_of_names {es fs : Entries α} (h : es.Distinct) (hperm : es.Perm fs)
    (hnames : es.names = fs.names) : es = fs := by
  induction es generalizing fs with
  | nil => exact hperm.nil_eq
  | cons e es ih =>
    cases fs with
    | nil => cases hnames
    | cons f fs =>
      obtain ⟨hnew, hrest⟩ := List.nodup_cons.mp h
      obtain ⟨-, htail⟩ := List.cons.inj hnames
      -- `e` is not among the later entries of `fs`, which have the names of `es`
      have hhead : e = f := by
        refine (List.mem_cons.mp (hperm.mem_iff.mp (List.mem_cons_self ..))).resolve_right ?_
        intro hmem
        refine hnew ?_
        rw [show List.map Prod.fst es = List.map Prod.fst fs from htail]
        exact List.mem_map_of_mem hmem
      subst hhead
      rw [ih hrest hperm.cons_inv htail]

theorem sortByName_map {β : Type u} (f : α → β) (es : Entries α) :
    sortByName (es.map fun p => (p.1, f p.2)) = es.sortByName.map fun p => (p.1, f p.2) := by
  have hinsert : ∀ (name : String) (x : α) (fs : Entries α),
      insertByName name (f x) (fs.map fun p => (p.1, f p.2)) =
        (fs.insertByName name x).map fun p => (p.1, f p.2) := by
    intro name x fs
    induction fs with
    | nil => rfl
    | cons e rest ih =>
      simp only [List.map_cons, insertByName]
      split
      · rfl
      · simp only [ih, List.map_cons]
  induction es with
  | nil => rfl
  | cons e rest ih => simp only [List.map_cons, sortByName, ih, hinsert]

end Entries

end SchemaEngine
