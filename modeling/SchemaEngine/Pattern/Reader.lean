import SchemaEngine.Pattern.WordSearch
import SchemaEngine.Pattern.Reader.Brackets
import SchemaEngine.Pattern.Reader.Options

/-!
# Reading patterns

`Pattern.read?` reads the text of a pattern: characters for themselves, the point,
classes in brackets with ranges, nested classes and set operations, escapes, groups,
repetitions, alternatives, anchors, and flags that hold to the end of their group.

A reading goes over the text once, character by character, with a stack of the
groups that are still open (`Reader`), and builds a term.

A text is refused for one of the reasons in `PatternError`.  Some rules are easily
missed: a repetition needs something before it to repeat, but may itself be
repeated; a closing bracket or brace that closes nothing stands for itself; and a
pattern that is nested too deep is refused, though there is nothing wrong with any part
of it, and so is one whose automata are too large, unless it is a search for words.
-/

namespace SchemaEngine

namespace Pattern

/-- A part of a pattern. -/
structure Item where
  /-- What the part matches. -/
  term : Term
  /-- How deep the part is nested. -/
  depth : Nat := 0
  /-- Whether the part can be repeated, as all can but a change of flags. -/
  repeatable : Bool := true

namespace Item

/-- The part, unless it is nested too deep. -/
def checked (i : Item) : Except PatternError Item :=
  if deepest < i.depth then .error .tooDeep else .ok i

/-- The depth of parts next to one another. -/
def depthOf (is : List Item) : Nat :=
  depthTogether is.length ((is.map Item.depth).foldl max 0)

/-- Parts one after the other. -/
def sequence (is : List Item) : Item where
  term := .sequence (is.map Item.term)
  depth := depthOf is

/-- Any one of some parts. -/
def alternatives (is : List Item) : Item where
  term := .alternatives (is.map Item.term)
  depth := depthOf is

end Item

/-- A group that is still open. -/
structure Group where
  /-- The number of the group, if it has one. -/
  number : Option Nat
  /-- The flags outside the group. -/
  flags : Flags
  /-- The alternatives before the present one, last first. -/
  alternatives : List Item
  /-- The parts of the present alternative, last first. -/
  items : List Item

/-- How far a pattern has been read. -/
structure Reader where
  /-- The flags in force. -/
  flags : Flags := {}
  /-- The alternatives before the present one, last first. -/
  alternatives : List Item := []
  /-- The parts of the present alternative, last first. -/
  items : List Item := []
  /-- The open groups, innermost first. -/
  groups : List Group := []
  /-- How many groups have a number. -/
  numbered : Nat := 0
  /-- The names of groups. -/
  names : List String := []

namespace Reader

/-- A reader with one more part. -/
def push (r : Reader) (i : Item) : Reader := { r with items := i :: r.items }

/-- A reader with one more term that is not nested. -/
def pushTerm (r : Reader) (t : Term) : Reader := r.push { term := t }

/-- A reader with one more character, as the flags have it. -/
def pushChar (r : Reader) (c : Char) : Reader :=
  r.pushTerm (if r.flags.ignoreCase then .ofSet (.variants c) else .text [c])

/-- What was read since the innermost open group began. -/
def finished (r : Reader) : Item :=
  .alternatives (r.alternatives.reverse ++ [.sequence r.items.reverse])

/-- Begins another alternative. -/
def alternate (r : Reader) : Reader :=
  { r with
    alternatives := .sequence r.items.reverse :: r.alternatives
    items := [] }

/-- Opens a group, in which other flags can be in force. -/
def openGroup (r : Reader) (number : Option Nat) (inner : Flags) : Reader :=
  { r with
    flags := inner
    alternatives := []
    items := []
    groups := ⟨number, r.flags, r.alternatives, r.items⟩ :: r.groups }

/-- Opens a group with the next number. -/
def openNumbered (r : Reader) : Reader :=
  { r.openGroup (some (r.numbered + 1)) r.flags with numbered := r.numbered + 1 }

/-- Opens a group with the next number and a name. -/
def openNamed (r : Reader) (name : String) : Reader :=
  { r.openNumbered with names := name :: r.names }

/-- Closes the innermost open group. -/
def closeGroup (r : Reader) : Except PatternError Reader :=
  match r.groups with
  | [] => .error .groupUnopened
  | g :: rest => do
    let inner := r.finished
    let term := match g.number with
      | some n => .group n inner.term
      | none => inner.term
    let item ← Item.checked { term, depth := inner.depth + 1 }
    return { r with
      flags := g.flags
      alternatives := g.alternatives
      items := item :: g.items
      groups := rest }

/-- Repeats the last part at least `least` times, and at most `greatest` times if
there is a bound. -/
def repeatLast (r : Reader) (least : Nat) (greatest : Option Nat) (greedy : Bool) :
    Except PatternError Reader :=
  match r.items with
  | [] => .error .nothingToRepeat
  | i :: rest =>
    if i.repeatable then do
      let item ← Item.checked
        { term := .repeating least greatest greedy i.term, depth := i.depth + 1 }
      return { r with items := item :: rest }
    else .error .nothingToRepeat

end Reader

/-- What stands behind an opening parenthesis: a name, flags, or nothing special. -/
def readGroupStart (r : Reader) (cs : List Char) : Except PatternError (Reader × List Char) :=
  match skipBlanks r.flags cs with
  | '?' :: '=' :: _ => .error .lookAround
  | '?' :: '!' :: _ => .error .lookAround
  | '?' :: '<' :: '=' :: _ => .error .lookAround
  | '?' :: '<' :: '!' :: _ => .error .lookAround
  | '?' :: 'P' :: '<' :: rest => do
    let (name, rest) ← readName r.names rest
    return (r.openNamed name, rest)
  | '?' :: '<' :: rest => do
    let (name, rest) ← readName r.names rest
    return (r.openNamed name, rest)
  | '?' :: rest => do
    let (f, after) ← readFlags r.flags true [] rest
    match after with
    | ':' :: after => return (r.openGroup none f, after)
    | _ :: after =>
      if rest.head? == some ')' then .error .nothingToRepeat
      else return ({ r with flags := f }.push { term := .empty, repeatable := false }, after)
    | [] => .error .groupUnclosed
  | rest => .ok (r.openNumbered, rest)

/-- The set of the point. -/
def pointSet (f : Flags) : Except PatternError CharSet :=
  if !f.unicode then .error .notText
  else if f.dotAll then .ok .all
  else if f.wideLines then .ok ((CharSet.one '\n').union (.one '\r')).complement
  else .ok (CharSet.one '\n').complement

/-- The anchor of a circumflex. -/
def startAnchor (f : Flags) : Anchor :=
  if f.multiLine then if f.wideLines then .wideLineStart else .lineStart else .textStart

/-- The anchor of a dollar sign. -/
def endAnchor (f : Flags) : Anchor :=
  if f.multiLine then if f.wideLines then .wideLineEnd else .lineEnd else .textEnd

/-- Repeats the last part, greedily unless a mark of reluctance follows. -/
def readRepetition (r : Reader) (least : Nat) (greatest : Option Nat) (cs : List Char) :
    Except PatternError (Reader × List Char) := do
  let (greedy, rest) := readGreed r.flags cs
  return (← r.repeatLast least greatest greedy, rest)

/-- Reads on by one token; `fuel` is at least the length of `rest`. -/
def readToken (fuel : Nat) (r : Reader) (c : Char) (rest : List Char) :
    Except PatternError (Reader × List Char) := do
  if r.flags.extended && (Unicode.isWhiteSpace c || c == '#') then
    return (r, skipBlanks r.flags (c :: rest))
  else
    match c with
    | '(' => readGroupStart r rest
    | ')' => return (← r.closeGroup, rest)
    | '|' => return (r.alternate, rest)
    | '[' =>
      let (opened, rest) := openClass r.flags rest
      let ((k, depth), rest) ← readClass r.flags (fuel + 1) 0 opened rest
      return (r.push { term := .ofSet k, depth }, rest)
    | '?' => readRepetition r 0 (some 1) rest
    | '*' => readRepetition r 0 none rest
    | '+' => readRepetition r 1 none rest
    | '\x7b' =>
      let ((least, greatest), rest) ← readBounds r.flags rest
      readRepetition r least greatest (skipBlanks r.flags rest)
    | '\\' =>
      match ← readEscape r.flags rest with
      | (.char c, rest) => return (r.pushChar c, rest)
      | (.set k, rest) => return (r.pushTerm (.ofSet k), rest)
      | (.anchor a, rest) => return (r.pushTerm (.anchor a), rest)
    | '.' => return (r.pushTerm (.ofSet (← pointSet r.flags)), rest)
    | '^' => return (r.pushTerm (.anchor (startAnchor r.flags)), rest)
    | '$' => return (r.pushTerm (.anchor (endAnchor r.flags)), rest)
    | c => return (r.pushChar c, rest)

/-- Reads to the end; `fuel` is at least the length of the text. -/
def readAll : Nat → Reader → List Char → Except PatternError Item
  | _, r, [] => if r.groups.isEmpty then r.finished.checked else .error .groupUnclosed
  | 0, _, _ => .error .tooLarge
  | fuel + 1, r, c :: rest => do
    let (r, rest) ← readToken fuel r c rest
    readAll fuel r rest

/-- Reads the term of a text. -/
def readTerm? (s : String) : Except PatternError Term :=
  (readAll s.length {} s.toList).map Item.term

/-- Reads the text of a pattern. -/
def read? (s : String) : Except PatternError Pattern := do
  let t ← readTerm? s
  if t.isWordSearch || t.fits then return t.pattern else .error .tooLarge

end Pattern

end SchemaEngine
