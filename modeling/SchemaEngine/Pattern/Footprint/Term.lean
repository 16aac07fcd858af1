import SchemaEngine.Pattern.Term
import SchemaEngine.Pattern.Footprint.CharSet
import SchemaEngine.Pattern.Footprint.Words

/-!
# Footprints of terms

`Term.footprint` counts the states of the automaton of a term, in the order in which the
automaton is built.  A repetition with bounds is built as often as its greatest count
says, so a short term can have a large footprint.  `Term.fits` says that neither
direction exceeds the limit.
-/

namespace SchemaEngine
namespace Term

open Footprint

/-- The bytes of the branches, if there are several and all of them are texts. -/
def words? : Term → Option (List (List UInt8))
  | .alt (.text cs) (.text ds) =>
    some [cs.flatMap String.utf8EncodeChar, ds.flatMap String.utf8EncodeChar]
  | .alt (.text cs) u => u.words?.map (cs.flatMap String.utf8EncodeChar :: ·)
  | _ => none

/-- The growth of alternatives: behind the second of them come a state that forks to all
of them and one at which they meet. -/
def joined : List Growth → Growth
  | [] => id
  | [g] => g
  | g :: h :: rest => fun f =>
    rest.foldl (fun f g => g f) ((h (g f)).forking (rest.length + 2)).plain

/-- The growth of a term, from the growths of its branches. -/
def whole (d : Direction) (t : Term) (branches : List Growth) : Growth :=
  match t.words? with
  | some ws => Footprint.words d ws
  | none => joined branches

/-- The growth of a repetition of what grows by `once`; `nonempty` says that it cannot
be the empty piece. -/
def repeatedGrowth (least : Nat) (greatest : Option Nat) (nonempty : Bool) (once : Growth) :
    Growth := fun f =>
  match least, greatest with
  | 0, some 1 => (once (f.forking 2)).plain
  | 0, none =>
    if nonempty then once (f.forking 2) else (((once f).forking 2).forking 2).plain
  | least, none => (copies once least f).forking 2
  | least, some greatest =>
    let f := if least = 0 then f.plain else copies once least f
    if least = greatest then f
    else copies (fun f => once (f.forking 2)) (greatest - least) f.plain

/-- The growths of the branches of a term; a term that is no alternative is its only
branch. -/
def growths (d : Direction) : Term → List Growth
  | .empty => [plain]
  | .text cs => [bytesInTurn (cs.map Char.utf8Size).sum]
  | .set k => [Footprint.set d k]
  | .anchor _ => [plain]
  | .repeated least greatest _ t =>
    let nonempty := t.shortest?.any (0 < ·)
    [repeatedGrowth least greatest nonempty (whole d t (t.growths d))]
  | .group _ t =>
    let inner := whole d t (t.growths d)
    match d with
    | .forward => [fun f => (inner f.plain).plain]
    | .backward => [inner]
  | .seq t u =>
    let first := whole d t (t.growths d)
    let second := whole d u (u.growths d)
    match d with
    | .forward => [fun f => second (first f)]
    | .backward => [fun f => first (second f)]
  | .alt t u => whole d t (t.growths d) :: u.growths d

/-- The footprint of what comes before the term itself: unless the term can only match
where the reading begins, a loop over all bytes. -/
def entry (anchored : Bool) : Footprint :=
  if anchored then ({} : Footprint).plain
  else (({} : Footprint).forking 2).plain.reading 1

/-- The footprint of the automaton of a term.  Forward, the whole piece is a group. -/
def footprint (d : Direction) (t : Term) : Footprint :=
  let inner := whole d t (t.growths d)
  match d with
  | .forward => (inner (entry t.beginsText).plain).plain.plain
  | .backward => (inner (entry t.endsText)).plain

/-- Whether the automata of a term take no more bytes than they may. -/
def fits (t : Term) : Bool :=
  !(t.footprint .forward).exceeds && !(t.footprint .backward).exceeds

end Term
end SchemaEngine
