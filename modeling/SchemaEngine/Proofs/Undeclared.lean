import SchemaEngine.Proofs.Labels

/-!
# Undeclared members

`Value.declaredBy` keeps of a value what a schema declares: in an object the members that
have a field and are not absent, in a sequence all items, each reduced by the schema of
its place, and any other value whole.  A schema without preprocessing parses a value and
what is kept of it alike.

Not all of a parse looks through fields: the whole input reaches every step of the node.
It is used there for two things, though.  A rescue and a default ask whether it is absent
or null, which an object or a sequence with fewer members is no more than before
(`indistinct_declaredAlike`), and the message of a refinement can show it, which is why the
messages of refinements, and no others, are left out of the comparison.
-/

namespace SchemaEngine

/-! ## What a schema declares of a value -/

mutual

/-- The value without the members that a schema does not declare. -/
def Value.declaredBy : Value → Schema → Value
  | .object members, s =>
    match s.shape with
    | .object fields => .object (declaredMembers members fields)
    | _ => .object members
  | .array items, s =>
    match s.shape with
    | .array element => .array (declaredItems items element)
    | _ => .array items
  | v, _ => v

/-- The items of a sequence, each without what its schema does not declare. -/
def declaredItems : List Value → Schema → List Value
  | [], _ => []
  | v :: rest, element => v.declaredBy element :: declaredItems rest element

/-- The members that have a field and are not absent, each without what the schema of the
field does not declare. -/
def declaredMembers : List (String × Value) → List (String × Schema) → List (String × Value)
  | [], _ => []
  | (name, v) :: rest, fields =>
    match Entries.find? name fields with
    | some s =>
      if v.isUndefined then declaredMembers rest fields
      else (name, v.declaredBy s) :: declaredMembers rest fields
    | none => declaredMembers rest fields

end

/-- At a declared name, what is kept of an object is what is kept of the member; an absent
member is left out, and is found to be absent again. -/
theorem find?_declaredMembers {members : Entries Value} {fields : List (String × Schema)}
    {name : String} {s : Schema} (distinct : members.Distinct)
    (hs : Entries.find? name fields = some s) :
    (Entries.find? name (declaredMembers members fields)).getD .undefined =
      ((members.find? name).getD .undefined).declaredBy s := by
  induction members with
  | nil => rfl
  | cons member rest ih =>
    obtain ⟨key, v⟩ := member
    obtain ⟨hnew, hdistinct⟩ := List.nodup_cons.mp distinct
    have hrest := ih hdistinct
    by_cases hkey : key = name
    · subst hkey
      simp only [declaredMembers, hs, Entries.find?, if_pos, Option.getD_some]
      cases hv : v.isUndefined with
      | true =>
        obtain rfl := Value.eq_undefined hv
        rw [Entries.find?_eq_none hnew] at hrest
        simpa using hrest
      | false => simp [Entries.find?]
    · have hskip : Entries.find? name ((key, v) :: rest) = Entries.find? name rest := if_neg hkey
      rw [hskip, ← hrest]
      simp only [declaredMembers]
      cases Entries.find? key fields with
      | none => rfl
      | some t =>
        cases hv : v.isUndefined with
        | true => simp
        | false => simp [Entries.find?, hkey]

/-- An explicitly absent member counts as little as none. -/
theorem declaredMembers_undefined (before after : List (String × Value)) (name : String)
    (fields : List (String × Schema)) :
    declaredMembers (before ++ (name, .undefined) :: after) fields =
      declaredMembers (before ++ after) fields := by
  induction before with
  | nil =>
    simp only [List.nil_append, declaredMembers]
    cases Entries.find? name fields <;> rfl
  | cons member rest ih =>
    obtain ⟨key, v⟩ := member
    simp only [List.cons_append, declaredMembers, ih]

theorem declaredItems_eq_map (items : List Value) (element : Schema) :
    declaredItems items element = items.map fun v => v.declaredBy element := by
  induction items with
  | nil => rfl
  | cons v rest ih => simp only [declaredItems, ih, List.map_cons]

theorem Value.wellFormed_member {members : Entries Value} (h : WellFormedMembers members)
    (name : String) : ((members.find? name).getD .undefined).WellFormed := by
  cases hv : members.find? name with
  | none => trivial
  | some v => exact wellFormedMembers_iff.mp h _ (Entries.mem_of_find? hv)

/-! ## Parsing what is declared -/

open Drawing (Related related_pure related_refl)

/-- The step is not preprocessing. -/
def Step.Unprocessing : Step → Prop
  | .preprocess _ => False
  | _ => True

/-- No node on a path through fields and elements preprocesses its input. -/
def Schema.Unprocessing (s : Schema) : Prop :=
  s.All Schema.children fun t => ∀ step ∈ t.steps, step.Unprocessing

/-- The failures are the same, or those of a refinement that differ at most in the message and
in the reason. -/
def Failure.SameButMessage (e f : Failure) : Prop :=
  e.SameButWords f ∧ e.expected = f.expected ∧ (e.code = "refinement" ∨ e = f)

section
variable {e f g : Failure}

theorem Failure.sameButMessage_refl (e : Failure) : e.SameButMessage e :=
  ⟨⟨rfl, rfl, rfl, rfl⟩, rfl, .inr rfl⟩

theorem Failure.SameButMessage.symm (h : e.SameButMessage f) : f.SameButMessage e := by
  obtain ⟨hwords, hexpected, hcode | rfl⟩ := h
  · have hsame : e.code = f.code := hwords.2.2.1
    exact ⟨hwords.symm, hexpected.symm, .inl (hsame.symm.trans hcode)⟩
  · exact sameButMessage_refl e

theorem Failure.SameButMessage.trans (h : e.SameButMessage f) (h' : f.SameButMessage g) :
    e.SameButMessage g := by
  obtain ⟨hwords, hexpected, hcode | rfl⟩ := h
  · exact ⟨hwords.trans h'.1, hexpected.trans h'.2.1, .inl hcode⟩
  · exact h'

end

theorem Failure.lasting_sameButMessage : Lasting SameButMessage where
  under s h := ⟨unworded_sameButWords.under s h.1, h.2.1, h.2.2.imp id (congrArg (under s))⟩
  refinement m m' x x' w := ⟨unworded_sameButWords.refinement m m' x x' w, rfl, .inl rfl⟩

/-- An input and what is declared of it, or twice the same input. -/
def DeclaredAlike (s : Schema) (v v' : Value) : Prop :=
  v = v' ∨ v.WellFormed ∧ v' = v.declaredBy s

theorem indistinct_declaredAlike (s : Schema) : Indistinct (DeclaredAlike s) where
  refl _ := .inl rfl
  nullish := by
    rintro v _ (rfl | ⟨-, rfl⟩) hne
    · exact absurd rfl hne
    · cases v with
      | object members =>
        refine ⟨rfl, ?_⟩
        unfold Value.declaredBy
        split <;> rfl
      | array items =>
        refine ⟨rfl, ?_⟩
        unfold Value.declaredBy
        split <;> rfl
      | _ => exact absurd rfl hne

theorem Step.corresponds_self {step : Step} (h : step.Unprocessing)
    (V : Value → Value → Prop) (o : Options) :
    step.Corresponds V Failure.SameButMessage o step := by
  have hrefl := Outcome.agree_refl Failure.sameButMessage_refl
  cases step with
  | preprocess f => exact h.elim
  | optional => exact .optional
  | nullable => exact .nullable
  | nullish => exact .nullish
  | default fallback => exact .default fallback
  | transform f => exact .transform f
  | pipe next => exact .pipe fun w => related_refl hrefl _
  | refine test message subject => exact .refine fun w => related_refl (fun _ => rfl) _

/-- **A schema parses a value and what it declares of it alike.** -/
theorem Schema.run_declaredBy {s : Schema} (wf : s.WellFormed) (unprocessing : s.Unprocessing)
    {v : Value} (hv : v.WellFormed) (o : Options) :
    Related (Outcome.Agree Failure.SameButMessage) (s.run v o) (s.run (v.declaredBy s) o) := by
  induction unprocessing generalizing v with
  | @intro s hsteps _ ih =>
    have hchild : ∀ t ∈ s.children, ∀ w : Value, w.WellFormed →
        Related (Outcome.Agree Failure.SameButMessage) (t.run w o) (t.run (w.declaredBy t) o) :=
      fun t ht w hw => ih t ht (wf.of_mem (mem_parts_of_mem_children ht)) hw
    have hrefl := Outcome.agree_refl Failure.sameButMessage_refl
    obtain ⟨shape, label, steps⟩ := s
    refine run_related (indistinct_declaredAlike _) Failure.lasting_sameButMessage ?_ ?_
      (.inr ⟨hv, rfl⟩)
    · exact List.forall₂_same.mpr fun step hs => Step.corresponds_self (hsteps step hs) _ o
    · rintro w _ (rfl | ⟨hw, rfl⟩)
      · exact related_refl hrefl _
      · cases shape with
        | object fields =>
          cases w with
          | object members =>
            obtain ⟨hdistinct, hmembers⟩ := hw
            have hfields : Related (Gathered.Agree Failure.SameButMessage)
                (gatherFields fields members o)
                (gatherFields fields (declaredMembers members fields) o) := by
              refine gatherFields_related Failure.lasting_sameButMessage ?_
              refine List.forall₂_same.mpr fun p hp => ⟨rfl, ?_⟩
              rw [find?_declaredMembers hdistinct (Entries.find?_of_mem wf.self hp)]
              exact hchild p.2 (List.mem_map_of_mem hp) _ (Value.wellFormed_member hmembers p.1)
            exact hfields.bind fun g g' hg => related_pure (hg.outcome Value.object)
          | _ => exact related_refl hrefl _
        | array element =>
          cases w with
          | array items =>
            have helement := hchild element (List.mem_singleton.mpr rfl)
            have hitems : Related (Gathered.Agree Failure.SameButMessage)
                (gatherItems (fun x => element.run x o) o 0 items)
                (gatherItems (fun x => element.run x o) o 0 (declaredItems items element)) := by
              refine gatherItems_related Failure.lasting_sameButMessage ?_ 0
              rw [declaredItems_eq_map, List.forall₂_map_right_iff]
              exact List.forall₂_same.mpr fun x hx =>
                helement x (Value.wellFormedItems_iff.mp hw x hx)
            exact hitems.bind fun g g' hg => related_pure (hg.outcome Value.array)
          | _ => exact related_refl hrefl _
        | _ => cases w <;> exact related_refl hrefl _

/-- **Undeclared members are inert.**  With a schema that does not preprocess, a value and
what the schema declares of it are parsed alike: into the same output, or into as many
failures, one by one the same, or both of a refinement at the same place that found the same,
with other words.  The same holds of any two values of which the schema declares the same, and
so of an object with an explicitly absent member and the object without it.  Where no
default changes from one parse to the next, the second may start from any draws. -/
theorem Schema.undeclared_inert {s : Schema} (wf : s.WellFormed)
    (unprocessing : s.Unprocessing) {v : Value} (hv : v.WellFormed) (o : Options) :
    let Alike := fun w => Related (Outcome.Agree Failure.SameButMessage) (s.safeParse o v)
      (s.safeParse o w)
    Alike (v.declaredBy s) ∧
    (∀ w : Value, w.WellFormed → w.declaredBy s = v.declaredBy s → Alike w) ∧
    (∀ fields before name after, s.shape = .object fields →
      v = .object (before ++ (name, .undefined) :: after) → Alike (.object (before ++ after))) ∧
    (s.Steady → ∀ d d', Outcome.Agree Failure.SameButMessage (s.safeParse o v d).1
      (s.safeParse o (v.declaredBy s) d').1) := by
  intro Alike
  have hdeclared : Alike (v.declaredBy s) := run_declaredBy wf unprocessing hv o
  have hsame : ∀ w : Value, w.WellFormed → w.declaredBy s = v.declaredBy s → Alike w := by
    intro w hw heq
    have hw : Related (Outcome.Agree Failure.SameButMessage) (s.run w o)
        (s.run (w.declaredBy s) o) := run_declaredBy wf unprocessing hw o
    rw [heq] at hw
    exact Outcome.Agree.related_of_common (fun _ _ h => h.symm) (fun _ _ _ h h' => h.trans h')
      hdeclared hw
  refine ⟨hdeclared, hsame, fun fields before name after hshape hobject => hsame _ ?_ ?_,
    fun steady => hdeclared.of_yields (run_yields steady _ o)⟩
  · subst hobject
    obtain ⟨hdistinct, hmembers⟩ := hv
    have hsub : (before ++ after).Sublist (before ++ (name, Value.undefined) :: after) :=
      (List.sublist_cons_self _ after).append_left before
    refine ⟨List.Nodup.sublist (hsub.map Prod.fst) hdistinct, ?_⟩
    rw [Value.wellFormedMembers_iff] at hmembers ⊢
    exact fun p hp => hmembers p (hsub.subset hp)
  · subst hobject
    simp only [Value.declaredBy, hshape, declaredMembers_undefined]

/-- An object with a member that no field declares and an explicitly absent one fails a
refinement whose message shows the whole input. -/
theorem Schema.undeclared_inert_of_refined :
    let s := refineWith (Condition.equals .null) (.aroundDisplay "not " "")
      (object [("name", leaf .string {}), ("note", optional (leaf .string {}))] {})
    let v := Value.object [("extra", .null), ("name", .text "a"), ("note", .undefined)]
    let w := Value.object [("name", .text "a")]
    v.declaredBy s = w ∧ ∃ es fs, (s.safeParse {} v []).1 = .error es ∧
      (s.safeParse {} w []).1 = .error fs ∧
      List.Forall₂ Failure.SameButMessage es.toList fs.toList := by
  intro s v w
  have wf : s.WellFormed := (wellFormed_object (by
    simp [WellFormed, leaf, optional, attach, Shape.parts, Shape.fieldNames, Test.parts,
      Step.parts, Primitive.string])).attach (by simp [Step.parts, Test.parts])
  have unprocessing : s.Unprocessing := by
    simp [s, Unprocessing, refineWith, object, leaf, optional, attach, Entries.ofList,
      Entries.put, Shape.children, Step.Unprocessing]
  have hv : v.WellFormed := ⟨by decide, trivial, trivial, trivial, trivial⟩
  refine ⟨rfl, _, _, rfl, rfl, ?_⟩
  have hagree := ((undeclared_inert wf unprocessing hv {}).1 []).1
  cases hagree with
  | error h => exact h

end SchemaEngine
