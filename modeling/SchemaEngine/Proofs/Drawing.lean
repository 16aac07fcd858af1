import SchemaEngine.Schema.Draws

/-!
# What a drawing computation is sure to return

A parse can draw from sources, so what it returns may hang on what was drawn before.
`Ensures m P` says that it returns something with the property `P` whatever was
drawn, and `Yields m x` that it always returns `x`.  Both pass through a sequence of
computations by one rule.
-/

namespace SchemaEngine
namespace Drawing

variable {α β : Type}

/-- The second computation goes on with what the first one returns and leaves. -/
theorem bind_apply (m : Drawing α) (f : α → Drawing β) (d : Draws) :
    (m >>= f) d = f (m d).1 (m d).2 := rfl

/-- Whatever was drawn before, the result has a property. -/
def Ensures (m : Drawing α) (P : α → Prop) : Prop := ∀ d, P (m d).1

/-- Whatever was drawn before, the result is the same. -/
def Yields (m : Drawing α) (x : α) : Prop := ∀ d, (m d).1 = x

theorem ensures_pure {P : α → Prop} {x : α} (h : P x) : Ensures (pure x) P := fun _ => h

theorem Ensures.bind {m : Drawing α} {f : α → Drawing β} {P : α → Prop} {Q : β → Prop}
    (hm : Ensures m P) (hf : ∀ x, P x → Ensures (f x) Q) : Ensures (m >>= f) Q :=
  fun d => hf (m d).1 (hm d) (m d).2

/-- After a computation of whose result nothing is known. -/
theorem ensures_bind (m : Drawing α) {f : α → Drawing β} {Q : β → Prop}
    (hf : ∀ x, Ensures (f x) Q) : Ensures (m >>= f) Q :=
  fun d => hf (m d).1 (m d).2

theorem yields_pure (x : α) : Yields (pure x) x := fun _ => rfl

theorem Ensures.yields_bind {m : Drawing α} {f : α → Drawing β} {P : α → Prop} {y : β}
    (hm : Ensures m P) (hf : ∀ x, P x → Yields (f x) y) : Yields (m >>= f) y :=
  fun d => hf (m d).1 (hm d) (m d).2

/-- After a computation whose result is known. -/
theorem Yields.ensures_bind {m : Drawing α} {f : α → Drawing β} {x : α} {Q : β → Prop}
    (hm : Yields m x) (hf : Ensures (f x) Q) : Ensures (m >>= f) Q := by
  intro d
  have hx : (m d).1 = x := hm d
  have hq : Q (f (m d).1 (m d).2).1 := by rw [hx]; exact hf (m d).2
  exact hq

theorem Yields.bind {m : Drawing α} {f : α → Drawing β} {x : α} {y : β}
    (hm : Yields m x) (hf : Yields (f x) y) : Yields (m >>= f) y :=
  Yields.ensures_bind (Q := fun z => z = y) hm hf

end Drawing
end SchemaEngine
