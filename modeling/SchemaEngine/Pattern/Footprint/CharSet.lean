import Std.Data.TreeMap
import SchemaEngine.Pattern.ByteRange
import SchemaEngine.Pattern.Footprint.Basic

/-!
# Footprints of character sets

A set of ASCII characters takes two states: one that leads on by its ranges, and one that
they all lead to.  Any other set is read byte by byte, and its characters share states:
forward those with the same end, backward those with the same beginning.

Shared states are found by a `Memory` of few places, in which a new state takes the place
of an older one.  A large set therefore has somewhat more states than it needs.
-/

namespace SchemaEngine
namespace Footprint

/-! ## Memories -/

/-- States made before, each found by what it was made from. -/
structure Memory (α : Type) where
  /-- The number of places. -/
  size : Nat
  /-- What the places hold: what a state was made from, and the state. -/
  places : Std.TreeMap Nat (α × Nat) := ∅

namespace Memory

variable {α : Type} [DecidableEq α]

/-- The place of a hash. -/
def place (m : Memory α) (hash : UInt64) : Nat := hash.toNat % m.size

/-- The state that was made from `x`, if the memory still holds it. -/
def find? (m : Memory α) (hash : UInt64) (x : α) : Option Nat :=
  match m.places[m.place hash]? with
  | some (y, state) => if y = x then some state else none
  | none => none

/-- A memory in which the state that was made from `x` takes its place. -/
def keep (m : Memory α) (hash : UInt64) (x : α) (state : Nat) : Memory α :=
  { m with places := m.places.insert (m.place hash) (x, state) }

/-- The state that was made from `x`, and if the memory does not hold it, a new state,
made by `make`. -/
def stateFor (m : Memory α) (hash : UInt64) (x : α) (make : Growth) (f : Footprint) :
    Nat × Memory α × Footprint :=
  match m.find? hash x with
  | some state => (state, m, f)
  | none => (f.states, m.keep hash x f.states, make f)

end Memory

/-- A range of bytes, and the state that it leads to. -/
structure Branch where
  /-- The range. -/
  range : ByteRange
  /-- The state. -/
  next : Nat
deriving DecidableEq

namespace Branch

/-- A hash with one more number in it. -/
def mix (hash : UInt64) (n : UInt64) : UInt64 := (hash ^^^ n) * 1099511628211

/-- The hash of nothing. -/
def seed : UInt64 := 14695981039346656037

/-- The hash of branches, by their bytes and then by their states. -/
def hashAll (bs : List Branch) : UInt64 :=
  bs.foldl (fun hash b =>
    mix (mix (mix hash b.range.first.toUInt64) b.range.last.toUInt64) b.next.toUInt64) seed

/-- The hash of one branch, by its state and then by its bytes. -/
def hashOne (b : Branch) : UInt64 :=
  mix (mix (mix seed b.next.toUInt64) b.range.first.toUInt64) b.range.last.toUInt64

end Branch

/-! ## Sequences of byte ranges -/

/-- Neighbours with the same head, as one head with the tails. -/
def gather : List (List ByteRange) → List (ByteRange × List (List ByteRange))
  | [] => []
  | [] :: rest => gather rest
  | (r :: tail) :: rest =>
    match gather rest with
    | (s, tails) :: more =>
      if r = s then (r, tail :: tails) :: more else (r, [tail]) :: (s, tails) :: more
    | [] => [(r, [tail])]

/-- The state that reads any one of some sequences forward and then goes on at
`target`; `depth` is at least their length. -/
def readForward (target : Nat) :
    Nat → List (List ByteRange) → Memory (List Branch) × Footprint →
      Nat × Memory (List Branch) × Footprint
  | 0, _, s => (target, s)
  | depth + 1, seqs, s =>
    let (branches, m, f) := (gather seqs).foldl (fun (branches, s) (range, tails) =>
      if tails.all List.isEmpty then (⟨range, target⟩ :: branches, s)
      else
        let (next, s) := readForward target depth tails s
        (⟨range, next⟩ :: branches, s)) (([] : List Branch), s)
    let branches := branches.reverse
    m.stateFor (Branch.hashAll branches) branches (reading branches.length) f

/-- The states that read a sequence backward, from its last range to its first, and then
go on at `next`. -/
def readBackward : List ByteRange → Nat → Memory Branch × Footprint → Memory Branch × Footprint
  | [], _, s => s
  | range :: rest, next, (m, f) =>
    let b : Branch := ⟨range, next⟩
    let (state, s) := m.stateFor b.hashOne b plain f
    readBackward rest state s

/-- The growth of a set whose characters are some sequences of byte ranges.  The state
that all of them lead to comes first forward, and backward second, behind the state that
forks to their last bytes. -/
def sequences (d : Direction) (seqs : List (List ByteRange)) : Growth := fun f =>
  match d with
  | .forward => (readForward f.states 4 seqs ({ size := 10000 }, f.plain)).2.2
  | .backward =>
    let f := (f.forking seqs.length).plain
    (seqs.foldl (fun s seq => readBackward seq (f.states - 1) s) ({ size := 1000 }, f)).2

/-- The growth of a set. -/
def set (d : Direction) (k : CharSet) : Growth :=
  if k.isAscii then fun f => f.plain.reading k.ranges.length
  else sequences d k.byteSequences

end Footprint
end SchemaEngine
