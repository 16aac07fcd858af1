import SchemaEngine.Pattern.Footprint.Basic

/-!
# Footprints of alternative words

Words that are alternatives of one another share the states of what they begin with.
But a word that ends is preferred to the longer words behind it, so that no word behind
it shares a state with one before it there.
-/

namespace SchemaEngine
namespace Footprint

/-- Splits a list of words where an empty word stands; the other words are split into
their first byte and the rest. -/
def split : List (List UInt8) → List (List (UInt8 × List UInt8))
  | [] => [[]]
  | [] :: rest => [] :: split rest
  | (b :: tail) :: rest =>
    match split rest with
    | part :: more => ((b, tail) :: part) :: more
    | [] => [[(b, tail)]]

/-- The words without the empty words that follow an empty word at their beginning. -/
def dropRepeatedEnd : List (List UInt8) → List (List UInt8)
  | [] :: rest => [] :: rest.dropWhile List.isEmpty
  | words => words

/-- What one part of the words adds, where no empty word stands between them: what
`tails` adds for the words behind each first byte, and a state for the first bytes. -/
def partOfWords (tails : List (List UInt8) → Growth) (part : List (UInt8 × List UInt8)) :
    Growth := fun f =>
  let heads := (part.map Prod.fst).eraseDups
  let f := heads.foldl (fun f head =>
    let behind := part.filterMap fun w => if w.1 = head then some w.2 else none
    if behind.all List.isEmpty then f else tails behind f) f
  match heads with
  | [] => f
  | [_] => f.plain
  | heads => f.reading heads.length

/-- The states that read any one of some words, which are not all empty; `depth` is at
least the length of the words. -/
def readWords : Nat → List (List UInt8) → Growth
  | 0, _, f => f
  | depth + 1, words, f =>
    let parts := split (dropRepeatedEnd words)
    let f := parts.foldl (fun f part => partOfWords (readWords depth) part f) f
    f.forking ((parts.filter fun part => !part.isEmpty).length + (parts.length - 1))

/-- The growth of alternative words. -/
def words (d : Direction) (ws : List (List UInt8)) : Growth :=
  let ws := match d with
    | .forward => ws
    | .backward => ws.map List.reverse
  let depth := (ws.map List.length).foldl max 0
  fun f => readWords depth ws f.plain

end Footprint
end SchemaEngine
