import SchemaEngine.Proofs.Labels
import SchemaEngine.Proofs.Keys

/-!
# The key and the message of a failure

A failure keeps its place twice, as a path and as a key, and its reason twice, alone and
in the message.  Callers look failures up by key and print messages, so these must say
what path and reason say, after whatever was done to the failure (`Failure.Coherent`).

Between its making and its end a failure is given a code, what was found and what was
wanted, and it is passed outwards, in any order (`Amendment`).  The first three leave
place and reason alone.  Passing it outwards makes it coherent whatever it was before,
because key and message are spelled from the whole path and the bare reason; a message
that was built on the last message would collect one key for each enclosing value.
-/

namespace SchemaEngine

/-! ## What is done to a failure -/

/-- One thing done to a failure after it was made. -/
inductive Amendment where
  /-- It is given a code. -/
  | code (text : String)
  /-- It is told what was found. -/
  | got (text : String)
  /-- It is told what was wanted. -/
  | expected (text : String)
  /-- It is passed to the enclosing value. -/
  | under (s : Segment)

namespace Amendment

/-- The failure afterwards. -/
def apply : Amendment → Failure → Failure
  | .code text => Failure.withCode text
  | .got text => Failure.withGot text
  | .expected text => Failure.withExpected text
  | .under s => Failure.under s

/-- The segment that is put in front of the path. -/
def segment? : Amendment → Option Segment
  | .under s => some s
  | _ => none

theorem reason_apply (a : Amendment) (e : Failure) : (a.apply e).reason = e.reason := by
  cases a <;> rfl

theorem segments_apply (a : Amendment) (e : Failure) :
    (a.apply e).path.segments = a.segment?.toList ++ e.path.segments := by
  cases a <;> rfl

end Amendment

namespace Failure

/-- A failure after some amendments, the first of the list first. -/
def amend (as : List Amendment) (e : Failure) : Failure := as.foldl (fun e a => a.apply e) e

/-- The key and the message say what the path and the reason say. -/
structure Coherent (e : Failure) : Prop where
  /-- A failure of the value itself, and no other, has no cause. -/
  cause_eq_none_iff : e.cause = none ↔ e.path = .root
  /-- The message of such a failure is the reason. -/
  message_of_root : e.path = .root → e.message = e.reason
  /-- The key is the key of the path. -/
  key?_eq : e.key? = e.path.key?
  /-- Any other failure has the texts of the segments, with a point between each two, for a
  key, and the key stands in front of the reason once. -/
  nested : e.path ≠ .root → ∃ key, e.key? = some key ∧
    key = Text.joined "." (e.path.segments.map Segment.render) ∧
    e.message = key ++ ": " ++ e.reason

/-! ## Coherence -/

theorem coherent_because (reason : String) : (because reason).Coherent where
  cause_eq_none_iff := ⟨fun _ => rfl, fun _ => rfl⟩
  message_of_root _ := rfl
  key?_eq := rfl
  nested h := absurd rfl h

/-- Passed to the enclosing value, a failure is coherent whatever it was before. -/
theorem coherent_under (s : Segment) (e : Failure) : (e.under s).Coherent := by
  have hroot : (e.under s).path ≠ .root := by
    intro h
    have hsegments : s :: e.path.segments = [] := congrArg Path.segments h
    cases hsegments
  exact
    { cause_eq_none_iff := ⟨(nomatch ·), fun h => absurd h hroot⟩
      message_of_root := fun h => absurd h hroot
      key?_eq := rfl
      nested := fun _ => ⟨(e.under s).path.render, rfl, rfl, rfl⟩ }

theorem Coherent.apply {e : Failure} (h : e.Coherent) (a : Amendment) : (a.apply e).Coherent := by
  obtain ⟨hcause, hmessage, hkey, hnested⟩ := h
  cases a with
  | under s => exact coherent_under s e
  | _ => exact ⟨hcause, hmessage, hkey, hnested⟩

theorem Coherent.amend {e : Failure} (h : e.Coherent) (as : List Amendment) :
    (e.amend as).Coherent := by
  induction as generalizing e with
  | nil => exact h
  | cons a as ih => exact ih (h.apply a)

theorem reason_amend (as : List Amendment) (e : Failure) : (e.amend as).reason = e.reason := by
  induction as generalizing e with
  | nil => rfl
  | cons a as ih => exact (ih (a.apply e)).trans (a.reason_apply e)

/-- The path of an amended failure begins with the segment that was put in front last. -/
theorem segments_amend (as : List Amendment) (e : Failure) :
    (e.amend as).path.segments =
      (as.filterMap Amendment.segment?).reverse ++ e.path.segments := by
  induction as generalizing e with
  | nil => rfl
  | cons a as ih =>
    have hfirst : (e.amend (a :: as)).path.segments = ((a.apply e).amend as).path.segments := rfl
    rw [hfirst, ih, a.segments_apply, List.filterMap_cons]
    cases a.segment? with
    | none => rfl
    | some s => simp

theorem amend_append (as : List Amendment) (a : Amendment) (e : Failure) :
    e.amend (as ++ [a]) = a.apply (e.amend as) := by
  rw [amend, List.foldl_append]
  rfl

end Failure

/-! ## The failures of a parse -/

/-- Every failure of a parse was made with its reason and amended. -/
theorem Schema.amended_of_run {s : Schema} {v : Value} {o : Options} {d : Draws}
    {es : Failures} (h : (s.run v o d).1 = .error es) :
    ∀ e ∈ es.toList, ∃ as, e = (Failure.because e.reason).amend as := by
  refine Schema.run_failures (fun e segment he => ?_) (fun shape label w => ?_)
    (fun candidates label w => ?_) (fun m x w => ?_) h
  · obtain ⟨as, he⟩ := he
    refine ⟨as ++ [.under segment], ?_⟩
    rw [Failure.amend_append]
    exact congrArg (Failure.under segment) he
  · exact ⟨[.code (shape.mismatch w).1, .expected (label.name.getD shape.signature),
      .got w.typeName], rfl⟩
  · exact ⟨[.code "union_no_match", .expected (candidateSignatures candidates),
      .got w.typeName], rfl⟩
  · exact ⟨[.code "refinement", .got w.display], rfl⟩

theorem Schema.coherent_of_run {s : Schema} {v : Value} {o : Options} {d : Draws}
    {es : Failures} (h : (s.run v o d).1 = .error es) : ∀ e ∈ es.toList, e.Coherent := by
  intro e he
  obtain ⟨as, hmade⟩ := Schema.amended_of_run h e he
  rw [hmade]
  exact (Failure.coherent_because e.reason).amend as

/-- **Every failure is coherent.**  Whatever is done to a failure after it was made, in
whatever order, it keeps its reason, and its key and its message say what its path and
its reason say.  Every failure that a parse reports was made so.

The segments put in front of a path stand in it in reverse order.  A list of failures
passed to the enclosing value is the list of the failures passed on, with the codes, what
was found and what was wanted as before. -/
theorem Failure.always_coherent :
    (∀ reason as, ((because reason).amend as).reason = reason ∧
      ((because reason).amend as).Coherent) ∧
    (∀ (s : Schema) o v d es, (s.safeParse o v d).1 = .error es →
      ∀ e ∈ es.toList, e.Coherent ∧ ∃ as, e = (because e.reason).amend as) ∧
    (∀ (e : Failure) as, (e.amend as).path.segments =
      (as.filterMap Amendment.segment?).reverse ++ e.path.segments) ∧
    ∀ (es : Failures) s, List.Forall₂ (fun e f => f = under s e ∧ f.code = e.code ∧
      f.got = e.got ∧ f.expected = e.expected) es.toList (es.under s).toList := by
  refine ⟨fun reason as => ⟨reason_amend as _, (coherent_because reason).amend as⟩,
    fun s o v d es h e he => ⟨Schema.coherent_of_run h e he, Schema.amended_of_run h e he⟩,
    fun e as => segments_amend as e, fun es s => ?_⟩
  rw [Failures.toList_under, List.forall₂_map_right_iff]
  exact List.forall₂_same.mpr fun e _ => ⟨rfl, rfl, rfl, rfl⟩

/-- The second item of a field is of the wrong type. -/
theorem Failure.always_coherent_in_field :
    let s := Schema.object [("sizes", .array (.leaf .number {}) {})] {}
    let v := Value.object [("sizes", .array [.number (.zero false), .null])]
    ∃ es, (s.safeParse {} v []).1 = .error es ∧ es.first.Coherent ∧
      es.first.path.segments = [.field "sizes", .index 1] ∧ es.first.key? = some "sizes.1" := by
  intro s v
  refine ⟨_, rfl, (always_coherent.2.1 s {} v [] _ rfl _ (List.mem_cons_self ..)).1, rfl, ?_⟩
  rfl

end SchemaEngine
