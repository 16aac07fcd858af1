import Mathlib.Data.List.Basic
import SchemaEngine.Check.Items
import SchemaEngine.Check.Text
import SchemaEngine.Proofs.Listings
import SchemaEngine.Proofs.Refinements

/-!
# Duplicates

The search for duplicates keeps the indices of every key, which is a text, and, apart from them,
the keys in the order in which they were first seen.  After any number of keys the two agree
(`Sightings.Records`): every key that was seen is listed once, in the order of the first
indices, with all indices at which it stands.  So taking the groups out, key by key, finds
every key still there, and none is lost (`takeAll_eq`).

The groups are therefore the classes of equal keys, of those that stand at two places or more
(`mem_duplicates`).  The message lists them in such a way that they can be read off it.
-/

namespace SchemaEngine
namespace Check

namespace Sightings

/-- What is known after the keys `keys`, seen at the indices from 0 on. -/
structure Records (s : Sightings) (keys : List String) : Prop where
  /-- The indices of a key are those at which it stands. -/
  indices : ∀ k, s.indices k = if k ∈ keys then some (keys.idxsOf k) else none
  /-- The keys that were seen are listed. -/
  listed : ∀ k, k ∈ s.order ↔ k ∈ keys
  /-- They stand in the order of their first indices. -/
  ordered : s.order.Pairwise fun k l => keys.idxOf k < keys.idxOf l

variable {s : Sightings} {keys : List String}

theorem records_empty : empty.Records [] :=
  ⟨fun _ => rfl, fun _ => Iff.rfl, .nil⟩

theorem idxsOf_eq_nil_iff_not_mem {k : String} : keys.idxsOf k = [] ↔ k ∉ keys := by
  rw [List.idxsOf_eq_nil_iff]
  refine ⟨fun h hk => ?_, fun h x hx => ?_⟩
  · simpa using h k hk
  · exact beq_eq_false_iff_ne.mpr fun hxk => h (hxk ▸ hx)

theorem Records.earlier (h : s.Records keys) (k : String) :
    (s.indices k).getD [] = keys.idxsOf k := by
  rw [h.indices]
  split
  · rfl
  · exact (idxsOf_eq_nil_iff_not_mem.mpr ‹_›).symm

theorem Records.nodup (h : s.Records keys) : s.order.Nodup :=
  h.ordered.imp fun hlt heq => absurd (congrArg keys.idxOf heq) (Nat.ne_of_lt hlt)

/-- A key is listed when it is new. -/
theorem Records.order_record (h : s.Records keys) (i : Nat) (key : String) :
    (s.record i key).order = if key ∈ keys then s.order else s.order ++ [key] := by
  unfold Sightings.record
  rw [h.earlier]
  by_cases hkey : key ∈ keys
  · have hearlier : (keys.idxsOf key).isEmpty = false :=
      List.isEmpty_eq_false_iff.mpr fun h => idxsOf_eq_nil_iff_not_mem.mp h hkey
    simp [hearlier, hkey]
  · simp [idxsOf_eq_nil_iff_not_mem.mpr hkey, hkey]

/-- One more key is seen. -/
theorem Records.record (h : s.Records keys) (key : String) :
    (s.record keys.length key).Records (keys ++ [key]) := by
  refine ⟨fun k => ?_, fun k => ?_, ?_⟩
  · unfold Sightings.record
    rw [h.earlier]
    by_cases hk : k = key
    · subst hk
      simp [List.idxsOf_append]
    · simp [List.idxsOf_append, h.indices, hk, Ne.symm hk]
  · rw [h.order_record, List.mem_append, List.mem_singleton]
    split
    · rw [h.listed]
      exact ⟨.inl, fun hk => hk.elim id fun heq => heq ▸ ‹key ∈ keys›⟩
    · rw [List.mem_append, List.mem_singleton, h.listed]
  · -- the keys that were seen keep their first index
    have hkept : s.order.Pairwise fun k l =>
        (keys ++ [key]).idxOf k < (keys ++ [key]).idxOf l := by
      refine h.ordered.imp_of_mem fun {k l} hk hl hkl => ?_
      rwa [List.idxOf_append_of_mem ((h.listed k).mp hk),
        List.idxOf_append_of_mem ((h.listed l).mp hl)]
    rw [h.order_record]
    split
    · exact hkept
    · refine List.pairwise_append.mpr ⟨hkept, List.pairwise_singleton .., fun k hk l hl => ?_⟩
      obtain rfl := List.mem_singleton.mp hl
      have hseen := (h.listed k).mp hk
      rw [List.idxOf_append_of_mem hseen, List.idxOf_append_of_notMem ‹_›]
      exact Nat.lt_add_right _ (List.idxOf_lt_length_of_mem hseen)

/-- Any number of keys are seen. -/
theorem Records.recordAll (h : s.Records keys) (more : List String) :
    (s.recordAll keys.length more).Records (keys ++ more) := by
  induction more generalizing s keys with
  | nil => rwa [List.append_nil]
  | cons key rest ih =>
    have hrest := ih (h.record key)
    rwa [List.length_append, List.append_assoc] at hrest

/-- Every key is still there when its turn comes, since no key is listed twice. -/
theorem takeAll_eq {indices : String → Option (List Nat)} {order : List String}
    (present : ∀ k ∈ order, indices k = some (keys.idxsOf k)) (nodup : order.Nodup) :
    takeAll indices order = order.map fun k => keys.idxsOf k := by
  induction order generalizing indices with
  | nil => rfl
  | cons key rest ih =>
    obtain ⟨hkey, hrest⟩ := List.nodup_cons.mp nodup
    have hpresent : ∀ k ∈ rest,
        (if k = key then none else indices k) = some (keys.idxsOf k) := by
      intro k hk
      rw [if_neg (ne_of_mem_of_not_mem hk hkey)]
      exact present k (List.mem_cons_of_mem key hk)
    rw [takeAll, present key (List.mem_cons_self ..), List.map_cons]
    exact congrArg _ (ih hpresent hrest)

end Sightings

open Sightings (records_empty takeAll_eq)

/-! ## The groups -/

section Groups
variable {key : Conversion} {items : List Value} {g : List Nat} {k : String}

/-- The groups are the indices of the keys, in the order in which these were first seen,
without the keys that stand at one place only. -/
theorem duplicates_eq (key : Conversion) (items : List Value) :
    ∃ order : List String, (∀ k, k ∈ order ↔ k ∈ keysOf key items) ∧
      (order.Pairwise fun k l => (keysOf key items).idxOf k < (keysOf key items).idxOf l) ∧
      duplicates key items =
        (order.map fun k => (keysOf key items).idxsOf k).filter
          fun is => decide (1 < is.length) := by
  have h := records_empty.recordAll (keysOf key items)
  refine ⟨_, h.listed, h.ordered, congrArg _ (takeAll_eq (fun k hk => ?_) h.nodup)⟩
  exact (h.indices k).trans (if_pos ((h.listed k).mp hk))

theorem mem_duplicates :
    g ∈ duplicates key items ↔ 2 ≤ g.length ∧ ∃ k, g = (keysOf key items).idxsOf k := by
  obtain ⟨order, hlisted, -, hgroups⟩ := duplicates_eq key items
  rw [hgroups, List.mem_filter, List.mem_map, decide_eq_true_iff]
  constructor
  · rintro ⟨⟨k, -, rfl⟩, hlength⟩
    exact ⟨hlength, k, rfl⟩
  · rintro ⟨hlength, k, rfl⟩
    refine ⟨⟨k, (hlisted k).mpr (List.count_pos_iff.mp ?_), rfl⟩, hlength⟩
    rw [List.length_idxsOf] at hlength
    exact Nat.lt_of_succ_lt hlength

end Groups

end Check
end SchemaEngine
