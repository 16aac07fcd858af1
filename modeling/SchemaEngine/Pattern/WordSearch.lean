import SchemaEngine.Pattern.Spelling
import SchemaEngine.Pattern.Footprint.Term

/-!
# Searches for words

A term that matches a few words, wherever they stand, needs no automaton: it is enough to
look for the words.  `Term.isWordSearch` tells these terms.  The limit on automata does
not concern them, however large the parts are that can never match.

A word that begins with a word before it is never found, since the shorter word is found
first.  The others are looked for whole as long as that is the quicker way
(`WordSearch.whole`).  If they have much in common, or are many, then a beginning of them
is looked for, and an automaton has to tell whether a word follows.
-/

namespace SchemaEngine
namespace WordSearch

/-- The words without those that begin with a word before them. -/
def preferred (ws : List Word) : List Word :=
  ws.foldl (fun kept w => if kept.any fun v => v.isPrefixOf w then kept else kept ++ [w]) []

/-- What two words begin with. -/
def commonOfTwo : Word → Word → Word
  | b :: v, c :: w => if b = c then b :: commonOfTwo v w else []
  | _, _ => []

/-- What all words begin with. -/
def common : List Word → Word
  | [] => []
  | [w] => w
  | w :: rest => commonOfTwo w (common rest)

/-- The bytes of ASCII that are frequent in texts. -/
def frequent : List Char := "\n\r (),-./0129:_abcdefghilmnoprstuvxy|".toList

/-- Whether a byte is rare in texts. -/
def isRare (b : UInt8) : Bool :=
  decide (b < 128) && !frequent.contains (Char.ofNat b.toNat)

/-- Lengths to which words are cut, each with the number of words that is small enough to
leave them as they are. -/
def cuts : List (Nat × Nat) := [(5, 10), (4, 10), (3, 64), (2, 64), (1, 10)]

/-- The words, cut shorter and shorter as long as they are too many. -/
def shortened : List (Nat × Nat) → List Word → List Word
  | [], ws => ws
  | (keep, few) :: rest, ws =>
    if ws.length ≤ few then ws else shortened rest (preferred (ws.map (List.take keep)))

/-- Whether cutting the words makes the search quicker: some word is cut, none becomes
very short, and they are not too many. -/
def worthCutting (ws : List Word) : Bool :=
  let cut := shortened cuts ws
  cut != ws && cut.all (fun w => decide (2 < w.length)) && decide (cut.length ≤ 64)

/-- Whether words are looked for whole.  There have to be words, and none may be empty,
as it would be found everywhere. -/
def whole (ws : List Word) : Bool :=
  let kept := preferred ws
  let start := common kept
  if ws.isEmpty || ws.any List.isEmpty then false
  else if 1 < ws.length ∧ start.length ≤ 3 ∧ start.head?.any isRare then
    kept.all fun w => decide (w.length ≤ 1)
  else if 4 < start.length ∨ (1 < start.length ∧ 16 < kept.length) then kept.length == 1
  else !worthCutting kept

/-- The number of alternative texts from which on they are looked for all together. -/
def manyTexts : Nat := 3000

end WordSearch

namespace Term

/-- Whether a term has neither anchors nor numbered groups, so that a word which it
matches is all there is to know. -/
def isPlain : Term → Bool
  | .empty => true
  | .text _ => true
  | .set _ => true
  | .anchor _ => false
  | .repeated _ _ _ t => t.isPlain
  | .group _ _ => false
  | .seq t u => t.isPlain && u.isPlain
  | .alt t u => t.isPlain && u.isPlain

/-- Whether words are looked for in place of a term. -/
def isWordSearch (t : Term) : Bool :=
  t.isPlain && t.spellings?.any WordSearch.whole
    || t.words?.any fun ws => decide (WordSearch.manyTexts ≤ ws.length)

end Term
end SchemaEngine
