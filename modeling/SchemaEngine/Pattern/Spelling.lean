import SchemaEngine.Pattern.Term

/-!
# Spellings

Some terms match a few words only, and these can be read off the term.
`Term.spellings?` gives them as bytes in UTF-8, in the order of preference: of the
branches of an alternative the first comes first, and a reluctant repetition prefers
fewer pieces.

The words are worked out from the parts of a term.  They are given up as soon as there
are too many or one is too long, for then they are no longer a few.  A part without any
word, such as the set of no character, ends a sequence at once: nothing can stand behind
it, and so it does not matter what does.
-/

namespace SchemaEngine

/-- A word as the bytes of its characters. -/
abbrev Word := List UInt8

namespace Spelling

/-- The most characters of a set that is spelled out. -/
def mostLetters : Nat := 10

/-- The most pieces of a repetition that is spelled out. -/
def mostCopies : Nat := 10

/-- The most bytes of a word. -/
def mostBytes : Nat := 100

/-- The most words. -/
def mostWords : Nat := 250

/-- The word of some characters. -/
def ofChars (cs : List Char) : Word := cs.flatMap String.utf8EncodeChar

/-- Words, unless one is too long.  Of equal words next to one another one is enough. -/
def short? (ws : List Word) : Option (List Word) :=
  if ws.all fun w => decide (w.length ≤ mostBytes) then some ws.eraseReps else none

/-- The words of either list. -/
def either (vs ws : List Word) : Option (List Word) :=
  if vs.length + ws.length ≤ mostWords then some (vs ++ ws).eraseReps else none

/-- A word of the first list and behind it one of the second. -/
def both (vs ws : List Word) : Option (List Word) :=
  if vs.length * ws.length ≤ mostWords then short? (vs.flatMap fun v => ws.map (v ++ ·))
  else none

/-- What parts one after the other spell behind some words. -/
def behind : List Word → List (Option (List Word)) → Option (List Word)
  | [], _ => some []
  | vs, [] => some vs
  | vs, part :: rest => part.bind fun ws => (both vs ws).bind fun vs => behind vs rest

/-- What parts one after the other spell. -/
def inTurn (parts : List (Option (List Word))) : Option (List Word) := behind [[]] parts

/-- What branches spell, each of which consists of parts one after the other. -/
def oneOf (branches : List (List (Option (List Word)))) : Option (List Word) :=
  branches.foldlM (fun vs parts => (inTurn parts).bind (either vs)) []

/-- The code points of a range. -/
def codePoints (r : Nat × Nat) : List Nat := List.range' r.1 (r.2 + 1 - r.1)

/-- The number of code points of a set.  If a range of characters is broken only by code
points that are none, then these count too. -/
def sizeOfSet (k : CharSet) : Nat :=
  k.ranges.foldl (fun n r => n + (r.2 + 1 - r.1))
    (if k.ranges.covers 0xd7ff && k.ranges.covers 0xe000 then 0x800 else 0)

/-- What the characters of a set spell. -/
def ofSet (k : CharSet) : Option (List Word) :=
  if sizeOfSet k ≤ mostLetters then
    some ((k.ranges.flatMap codePoints).map fun c => ofChars [Char.ofNat c])
  else none

/-- What pieces one after the other spell, where one piece spells `piece`.  Only an
exact number of pieces or an optional piece is spelled out, unless there is no piece. -/
def repeated (least : Nat) (greatest : Option Nat) (greedy : Bool)
    (piece : Option (List Word)) : Option (List Word) :=
  match piece with
  | none => none
  | some [] => some (if least = 0 then [[]] else [])
  | some ws =>
    if least = 0 then
      if greatest = some 1 then if greedy then either ws [[]] else either [[]] ws else none
    else if greatest = some least ∧ least ≤ mostCopies then
      inTurn (List.replicate least (some ws))
    else none

end Spelling

namespace Term

open Spelling

/-- What the parts of the branches of a term spell. -/
def spelledParts : Term → List (List (Option (List Word)))
  | .empty => [[some [[]]]]
  | .text cs => [[short? [ofChars cs]]]
  | .set k => [[Spelling.ofSet k]]
  | .anchor _ => [[some [[]]]]
  | .repeated least greatest greedy t =>
    [[Spelling.repeated least greatest greedy (oneOf t.spelledParts)]]
  | .group _ t => [[oneOf t.spelledParts]]
  | .seq t u =>
    match u.spelledParts with
    | [parts] => [oneOf t.spelledParts :: parts]
    | branches => [[oneOf t.spelledParts, oneOf branches]]
  | .alt t u => t.spelledParts ++ u.spelledParts

/-- The words that a term matches, if they are a few only.  The empty piece at an anchor
counts as an empty word. -/
def spellings? (t : Term) : Option (List Word) := oneOf t.spelledParts

end Term
end SchemaEngine
