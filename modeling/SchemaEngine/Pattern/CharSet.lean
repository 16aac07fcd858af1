import SchemaEngine.Unicode.WhiteSpace
import SchemaEngine.Unicode.DecimalDigit
import SchemaEngine.Unicode.WordCharacter
import SchemaEngine.Unicode.CaseFolding

/-!
# Sets of characters

A `CharSet` holds the code points of its characters as ranges.  The ranges increase,
do not meet and leave the surrogates out, so two sets with the same characters are
equal, and the size of what a set is compiled to can be read off them.

Union and complement work on the ranges; the other operations that bracketed classes
combine sets with follow from these two.
-/

namespace SchemaEngine

/-- A set of characters. -/
structure CharSet where
  /-- The ranges of the code points. -/
  ranges : Unicode.Ranges
deriving DecidableEq

namespace CharSet

/-- Whether a character belongs to the set. -/
def contains (k : CharSet) (c : Char) : Bool := k.ranges.covers c.toNat

/-- No character. -/
def none : CharSet := ⟨[]⟩

/-- The characters of either set. -/
def union (k l : CharSet) : CharSet := ⟨k.ranges.union l.ranges⟩

/-- The code points that are no characters. -/
def surrogates : Unicode.Ranges := [(0xd800, 0xdfff)]

/-- The characters outside a set. -/
def complement (k : CharSet) : CharSet :=
  ⟨(k.ranges.union surrogates).complement 0x10ffff⟩

/-- Every character. -/
def all : CharSet := none.complement

/-- The characters of both sets. -/
def inter (k l : CharSet) : CharSet := (k.complement.union l.complement).complement

/-- The characters of the first set that are not in the second. -/
def diff (k l : CharSet) : CharSet := (k.complement.union l).complement

/-- The characters of exactly one of the sets. -/
def symmDiff (k l : CharSet) : CharSet := (k.union l).diff (k.inter l)

/-- The characters from one to another. -/
def range (first last : Char) : CharSet := inter all ⟨[(first.toNat, last.toNat)]⟩

/-- One character. -/
def one (c : Char) : CharSet := ⟨[(c.toNat, c.toNat)]⟩

/-- The set with one more code point. -/
def insert (k : CharSet) (c : Nat) : CharSet := ⟨k.ranges.union [(c, c)]⟩

/-- The only character of the set, if there is one only. -/
def only? (k : CharSet) : Option Char :=
  match k.ranges with
  | [(first, last)] => if first = last then some (Char.ofNat first) else Option.none
  | _ => Option.none

/-- Whether all characters are ASCII. -/
def isAscii (k : CharSet) : Bool := k.ranges.all fun r => decide (r.2 < 128)

/-! ## Letter case -/

/-- The case variants of one character. -/
def variants (c : Char) : CharSet := (Unicode.variants c.toNat).foldl insert none

/-- The set with the foldings of its characters. -/
def withFoldings (k : CharSet) : CharSet :=
  Unicode.foldPairs.foldl (fun l p =>
    if k.ranges.covers p.1 && !l.ranges.covers p.2 then l.insert p.2 else l) k

/-- The set with the characters that fold to one of its characters. -/
def withUnfoldings (k : CharSet) : CharSet :=
  Unicode.foldPairs.foldl (fun l p =>
    if k.ranges.covers p.2 && !l.ranges.covers p.1 then l.insert p.1 else l) k

/-- The characters with a case variant in the set. -/
def ignoringCase (k : CharSet) : CharSet := k.withFoldings.withUnfoldings

/-! ## Sets by name -/

/-- ASCII digits. -/
def asciiDigit : CharSet := ⟨[(0x30, 0x39)]⟩

/-- ASCII letters, digits and the underscore. -/
def asciiWord : CharSet := ⟨[(0x30, 0x39), (0x41, 0x5a), (0x5f, 0x5f), (0x61, 0x7a)]⟩

/-- ASCII white space. -/
def asciiSpace : CharSet := ⟨[(0x09, 0x0d), (0x20, 0x20)]⟩

/-- The ASCII set of a name. -/
def ascii? (name : String) : Option CharSet :=
  match name with
  | "alnum" => some ⟨[(0x30, 0x39), (0x41, 0x5a), (0x61, 0x7a)]⟩
  | "alpha" => some ⟨[(0x41, 0x5a), (0x61, 0x7a)]⟩
  | "ascii" => some ⟨[(0x00, 0x7f)]⟩
  | "blank" => some ⟨[(0x09, 0x09), (0x20, 0x20)]⟩
  | "cntrl" => some ⟨[(0x00, 0x1f), (0x7f, 0x7f)]⟩
  | "digit" => some asciiDigit
  | "graph" => some ⟨[(0x21, 0x7e)]⟩
  | "lower" => some ⟨[(0x61, 0x7a)]⟩
  | "print" => some ⟨[(0x20, 0x7e)]⟩
  | "punct" => some ⟨[(0x21, 0x2f), (0x3a, 0x40), (0x5b, 0x60), (0x7b, 0x7e)]⟩
  | "space" => some asciiSpace
  | "upper" => some ⟨[(0x41, 0x5a)]⟩
  | "word" => some asciiWord
  | "xdigit" => some ⟨[(0x30, 0x39), (0x41, 0x46), (0x61, 0x66)]⟩
  | _ => Option.none

/-- White space. -/
def whiteSpace : CharSet := ⟨Unicode.whiteSpace⟩

/-- Decimal digits. -/
def decimalDigit : CharSet := ⟨Unicode.decimalDigits⟩

/-- Word characters. -/
def wordCharacter : CharSet := ⟨Unicode.wordCharacters⟩

/-- The set of a property, by its name in lower case without separators. -/
def property? (name : String) : Option CharSet :=
  match name with
  | "any" => some all
  | "ascii" => some ⟨[(0x00, 0x7f)]⟩
  | "whitespace" => some whiteSpace
  | "wspace" => some whiteSpace
  | "space" => some whiteSpace
  | "nd" => some decimalDigit
  | "decimalnumber" => some decimalDigit
  | "digit" => some decimalDigit
  | _ => Option.none

end CharSet

end SchemaEngine
