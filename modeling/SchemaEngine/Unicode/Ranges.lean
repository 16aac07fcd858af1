/-!
# Ranges of code points

A property of characters is a list of ranges of code points, in increasing order
and apart from one another; a one-to-one case mapping is a list of runs, each of
which shifts every first or every second code point of a range by one amount.

`Ranges.union` and `Ranges.complement` are the operations that sets of code points
are combined with.  Ranges that meet are joined, so each set has one list of ranges.
-/

namespace SchemaEngine
namespace Unicode

/-- Ranges of code points, first and last included. -/
abbrev Ranges := List (Nat × Nat)

namespace Ranges

/-- Whether a code point lies in one of the ranges.  The ranges increase, so the
search ends at the first range that begins above the code point. -/
def covers : Ranges → Nat → Bool
  | [], _ => false
  | (first, last) :: rest, c =>
    if c < first then false else if c ≤ last then true else covers rest c

/-- One range and further ranges, merged into a list by their first code points:
`rest` merges the further ranges alone. -/
def mergeOne (r : Nat × Nat) (rest : Ranges → Ranges) : Ranges → Ranges
  | [] => r :: rest []
  | s :: ss => if r.1 ≤ s.1 then r :: rest (s :: ss) else s :: mergeOne r rest ss

/-- Two lists of ranges, merged by the first code points of the ranges. -/
def merge : Ranges → Ranges → Ranges
  | [] => fun ss => ss
  | r :: rs => mergeOne r (merge rs)

/-- Joins the range from `first` to `last` with the ranges behind it that meet it, and
those with one another. -/
def joinFrom (first last : Nat) : Ranges → Ranges
  | [] => [(first, last)]
  | (a, b) :: rest =>
    if a ≤ last + 1 then joinFrom first (max last b) rest else (first, last) :: joinFrom a b rest

/-- Joins ranges that meet. -/
def join : Ranges → Ranges
  | [] => []
  | (a, b) :: rest => joinFrom a b rest

/-- The ranges of the code points in either list. -/
def union (rs ss : Ranges) : Ranges := join (merge rs ss)

/-- The ranges of the code points from `first` to `top` that are in none of the
ranges. -/
def gaps (top first : Nat) : Ranges → Ranges
  | [] => if first ≤ top then [(first, top)] else []
  | (a, b) :: rest =>
    if first < a then (first, a - 1) :: gaps top (b + 1) rest else gaps top (b + 1) rest

/-- The ranges of the code points up to `top` that are in none of the ranges. -/
def complement (top : Nat) (rs : Ranges) : Ranges := gaps top 0 rs

end Ranges

/-- Code points `first`, `first + step`, … up to `last`, each shifted by `shift`. -/
structure Run where
  /-- The first code point of the run. -/
  first : Nat
  /-- The last code point of the run. -/
  last : Nat
  /-- The distance between code points of the run. -/
  step : Nat
  /-- What is added to a code point of the run. -/
  shift : Int

/-- Whether a code point belongs to the run. -/
def Run.holds (r : Run) (c : Nat) : Bool :=
  decide (r.first ≤ c) && decide (c ≤ r.last) && (c - r.first) % r.step == 0

/-- The code points of a run, each with the code point that it is taken to. -/
def Run.pairs (r : Run) : List (Nat × Nat) :=
  (List.range' r.first ((r.last - r.first) / r.step + 1) r.step).map fun c =>
    (c, ((c : Int) + r.shift).toNat)

/-- Where a list of runs takes a code point, if a run holds it. -/
def shift? (runs : List Run) (c : Nat) : Option Nat :=
  (runs.find? fun r => r.holds c).map fun r => ((c : Int) + r.shift).toNat

/-- The code points that a list of runs takes to `c`. -/
def sources (runs : List Run) (c : Nat) : List Nat :=
  runs.filterMap fun r =>
    let source := (c : Int) - r.shift
    if 0 ≤ source && r.holds source.toNat then some source.toNat else none

end Unicode
end SchemaEngine
