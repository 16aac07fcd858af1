import SchemaEngine.Pattern.CharSet

/-!
# Byte ranges

In UTF-8, the characters of a range of code points are not always the product of one
range for each byte.  `ByteRange.sequences` cuts a range of code points into parts for
which this holds: at the code points where the number of bytes changes, and where a
leading byte changes while the bytes behind it do not run through all of their values.
-/

namespace SchemaEngine

/-- A range of bytes. -/
structure ByteRange where
  /-- The first byte. -/
  first : UInt8
  /-- The last byte. -/
  last : UInt8
deriving DecidableEq

namespace ByteRange

/-- The byte ranges of the code points from `a` to `b`, which are such a product. -/
def product (a b : Nat) : List ByteRange :=
  List.zipWith ByteRange.mk (String.utf8EncodeChar (Char.ofNat a))
    (String.utf8EncodeChar (Char.ofNat b))

/-- Where to cut the code points from `a` to `b` in blocks of `m`, if the block changes
between them: behind the first block if that is not whole, or before the last one if that
is not whole. -/
def blockCut? (a b m : Nat) : Option Nat :=
  if a / m = b / m then none
  else if a % m ≠ 0 then some (a / m * m + m - 1)
  else if b % m ≠ m - 1 then some (b / m * m - 1)
  else none

/-- The code point behind which to cut the code points from `a` to `b`, if they are not
a product of byte ranges. -/
def cut? (a b : Nat) : Option Nat :=
  match [0x7f, 0x7ff, 0xffff].find? (fun m => decide (a ≤ m) && decide (m < b)) with
  | some m => some m
  | none => if b ≤ 0x7f then none else [64, 4096, 262144].findSome? (blockCut? a b)

/-- The code points from `a` to `b`, which hold no surrogate, as sequences of byte
ranges, in increasing order; `depth` bounds the cuts that lie inside one another. -/
def sequencesWithin : Nat → Nat → Nat → List (List ByteRange)
  | 0, a, b => [product a b]
  | depth + 1, a, b =>
    match cut? a b with
    | none => [product a b]
    | some m => sequencesWithin depth a m ++ sequencesWithin depth (m + 1) b

/-- The code points from `a` to `b`, which hold no surrogate, as sequences of byte
ranges, in increasing order.  There are three cuts where the number of bytes changes and
two for each size of block, so no more than nine lie inside one another. -/
def sequences (a b : Nat) : List (List ByteRange) := sequencesWithin 9 a b

end ByteRange

/-- The characters of a set as sequences of byte ranges, in increasing order. -/
def CharSet.byteSequences (k : CharSet) : List (List ByteRange) :=
  k.ranges.flatMap fun r => ByteRange.sequences r.1 r.2

end SchemaEngine
