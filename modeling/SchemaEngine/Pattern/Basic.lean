import SchemaEngine.Unicode.WordCharacter

/-!
# Patterns

A `Pattern` matches pieces of a text.  `Pattern.Matches p a b` says that `p` matches
the piece between the places `a` and `b` of one text; an anchor matches an empty
piece, at some places only.

`Pattern.ends` computes, for a set of places, all places at which a match that begins
in the set can end.  Sets of places are lists in the order of the text without
repetition, so the number of places, and not the number of ways to match, bounds
the work.  A repetition goes on in rounds, each from the places that no round before
began at (`Place.reach`), so there are at most as many rounds as places, and a
repetition of a repetition does not multiply them.

`Pattern.occursIn` says whether a pattern matches somewhere in a text.
-/

namespace SchemaEngine

/-- A place between two characters of a text. -/
structure Place where
  /-- How many characters come before. -/
  index : Nat
  /-- The character before, if there is one. -/
  before : Option Char
  /-- The characters after. -/
  after : List Char
deriving DecidableEq

/-- What an anchor asks of a place. -/
inductive Anchor where
  /-- The beginning of the text. -/
  | textStart
  /-- The end of the text. -/
  | textEnd
  /-- The beginning of a line, lines ending in a line feed. -/
  | lineStart
  /-- The end of a line, lines ending in a line feed. -/
  | lineEnd
  /-- The beginning of a line, lines ending in a line feed, a carriage return or both. -/
  | wideLineStart
  /-- The end of a line, lines ending in a line feed, a carriage return or both. -/
  | wideLineEnd
  /-- A word character on one side only. -/
  | wordBoundary
  /-- A word character on both sides or on none. -/
  | noWordBoundary
  /-- A word character after, and none before. -/
  | wordStart
  /-- A word character before, and none after. -/
  | wordEnd
  /-- No word character before. -/
  | noWordBefore
  /-- No word character after. -/
  | noWordAfter
deriving DecidableEq

/-- A pattern for pieces of text. -/
inductive Pattern where
  /-- The empty piece. -/
  | empty
  /-- One character of a class. -/
  | char (p : Char → Bool)
  /-- The empty piece at a place that an anchor allows. -/
  | anchor (a : Anchor)
  /-- A piece of the first pattern and then one of the second. -/
  | seq (p q : Pattern)
  /-- A piece of either pattern. -/
  | alt (p q : Pattern)
  /-- Pieces one after the other, at least `least`, and at most `greatest` if there is a
  bound. -/
  | repeated (least : Nat) (greatest : Option Nat) (p : Pattern)

namespace Place

/-- Whether a word character comes before. -/
def wordBefore (a : Place) : Bool :=
  match a.before with
  | some c => Unicode.isWordCharacter c
  | none => false

/-- Whether a word character comes after. -/
def wordAfter (a : Place) : Bool :=
  match a.after with
  | c :: _ => Unicode.isWordCharacter c
  | [] => false

/-- Whether an anchor allows a place. -/
def allowedBy (a : Place) : Anchor → Bool
  | .textStart => a.before.isNone
  | .textEnd => a.after.isEmpty
  | .lineStart => a.before.isNone || a.before == some '\n'
  | .lineEnd => a.after.isEmpty || a.after.head? == some '\n'
  | .wideLineStart => a.before.isNone || a.before == some '\n'
      || a.before == some '\r' && a.after.head? != some '\n'
  | .wideLineEnd => a.after.isEmpty || a.after.head? == some '\r'
      || a.after.head? == some '\n' && a.before != some '\r'
  | .wordBoundary => a.wordBefore != a.wordAfter
  | .noWordBoundary => a.wordBefore == a.wordAfter
  | .wordStart => !a.wordBefore && a.wordAfter
  | .wordEnd => a.wordBefore && !a.wordAfter
  | .noWordBefore => !a.wordBefore
  | .noWordAfter => !a.wordAfter

/-- The place behind the next character, if that belongs to a class. -/
def step? (p : Char → Bool) (a : Place) : Option Place :=
  match a.after with
  | [] => none
  | c :: rest => if p c then some ⟨a.index + 1, some c, rest⟩ else none

/-- The beginning of a text. -/
def start (cs : List Char) : Place := ⟨0, none, cs⟩

/-- The place `a`, before the characters `cs`, and all places behind it. -/
def onwards (i : Nat) (before : Option Char) : List Char → List Place
  | [] => [⟨i, before, []⟩]
  | c :: cs => ⟨i, before, c :: cs⟩ :: onwards (i + 1) (some c) cs

/-- All places of a text. -/
def all (cs : List Char) : List Place := onwards 0 none cs

/-! ## Sets of places -/

/-- One place and a set of places, merged into another set: `rest` merges the first
set alone. -/
def mergeOne (a : Place) (rest : List Place → List Place) : List Place → List Place
  | [] => a :: rest []
  | b :: bs =>
    if a.index < b.index then a :: rest (b :: bs)
    else if b.index < a.index then b :: mergeOne a rest bs
    else a :: rest bs

/-- The union of two sets of places. -/
def union : List Place → List Place → List Place
  | [] => fun bs => bs
  | a :: as => mergeOne a (union as)

/-- One place and a set of places, without the places of another set: `rest` takes
them out of the first set alone. -/
def withoutOne (a : Place) (rest : List Place → List Place) : List Place → List Place
  | [] => a :: rest []
  | b :: bs =>
    if a.index < b.index then a :: rest (b :: bs)
    else if b.index < a.index then withoutOne a rest bs
    else rest bs

/-- The places of a set that are not in another. -/
def without : List Place → List Place → List Place
  | [] => fun _ => []
  | a :: as => withoutOne a (without as)

/-- The places that `next`, which only leads on, takes a set to when it is applied `n`
times.  Once the set stays the same, it stays so. -/
def again (next : List Place → List Place) : Nat → List Place → List Place
  | 0, as => as
  | n + 1, as =>
    let bs := next as
    if bs.map Place.index = as.map Place.index then as else again next n bs

/-- The places that `next`, which only leads on, takes a set to when it is applied at
least once and at most `rounds` times.  `begun` are the places where it was applied
already, together with those where it is due, `fresh`.  What lies before the first of
these is not met again. -/
def reach (next : List Place → List Place) :
    Nat → List Place → List Place → List Place
  | 0, _, _ => []
  | _ + 1, _, [] => []
  | rounds + 1, begun, a :: fresh =>
    let begun := begun.dropWhile fun b => decide (b.index < a.index)
    let found := next (a :: fresh)
    let new := without found begun
    union found (reach next rounds (union begun new) new)

end Place

namespace Pattern

/-- `p` matches the piece between two places. -/
inductive Matches : Pattern → Place → Place → Prop where
  | empty (a : Place) : Matches .empty a a
  | char {p : Char → Bool} {a b : Place} (h : a.step? p = some b) : Matches (.char p) a b
  | anchor {k : Anchor} {a : Place} (h : a.allowedBy k = true) : Matches (.anchor k) a a
  | seq {p q : Pattern} {a b c : Place} (hp : Matches p a b) (hq : Matches q b c) :
    Matches (.seq p q) a c
  | altLeft {p q : Pattern} {a b : Place} (h : Matches p a b) : Matches (.alt p q) a b
  | altRight {p q : Pattern} {a b : Place} (h : Matches q a b) : Matches (.alt p q) a b
  | repeatedNone {greatest : Option Nat} {p : Pattern} (a : Place) :
    Matches (.repeated 0 greatest p) a a
  | repeatedMore {least : Nat} {greatest : Option Nat} {p : Pattern} {a b c : Place}
    (hg : greatest ≠ some 0) (hp : Matches p a b)
    (hr : Matches (.repeated (least - 1) (greatest.map (· - 1)) p) b c) :
    Matches (.repeated least greatest p) a c

/-- The places at which a match that begins in a set of places can end; `rounds`
bounds the rounds of a repetition that has no bound. -/
def ends (rounds : Nat) : Pattern → List Place → List Place
  | .empty, as => as
  | .char p, as => as.filterMap (Place.step? p)
  | .anchor k, as => as.filter fun a => a.allowedBy k
  | .seq p q, as => q.ends rounds (p.ends rounds as)
  | .alt p q, as => Place.union (p.ends rounds as) (q.ends rounds as)
  | .repeated 0 greatest p, as =>
    Place.union as (Place.reach (p.ends rounds) (greatest.getD rounds) as as)
  | .repeated (least + 1) greatest p, as =>
    let begun := Place.again (p.ends rounds) least as
    Place.reach (p.ends rounds) ((greatest.map (· - least)).getD rounds) begun begun

/-- Whether a pattern matches a piece of a text. -/
def occursIn (p : Pattern) (s : String) : Bool :=
  let places := Place.all s.toList
  !(p.ends places.length places).isEmpty

/-! ## Derived patterns -/

/-- One given character. -/
def literal (c : Char) : Pattern := .char fun d => d == c

/-- A piece of the pattern, or the empty piece. -/
def opt (p : Pattern) : Pattern := .repeated 0 (some 1) p

/-- Any number of pieces. -/
def star (p : Pattern) : Pattern := .repeated 0 none p

/-- At least one piece. -/
def plus (p : Pattern) : Pattern := .repeated 1 none p

/-- Exactly `n` pieces. -/
def times (n : Nat) (p : Pattern) : Pattern := .repeated n (some n) p

/-- Patterns one after the other. -/
def seqAll : List Pattern → Pattern
  | [] => .empty
  | [p] => p
  | p :: rest => .seq p (seqAll rest)

end Pattern

end SchemaEngine
