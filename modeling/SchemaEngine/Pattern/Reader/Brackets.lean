import SchemaEngine.Pattern.Reader.Escape

/-!
# Reading patterns: classes in brackets

A class lists characters, ranges, escapes, named classes and nested classes, whose union
it is; `&&`, `--` and `~~` combine what stands before them with what stands behind them,
from left to right.

A class is read together with its depth.  An item has no depth unless it is a nested
class; several items have one level more than the deepest of them, an operation has one
more than the deeper of its sides, and brackets have one more than what they hold.
-/

namespace SchemaEngine

namespace Pattern

/-- How deep groups, repetitions, classes, sequences and alternatives may be nested. -/
def deepest : Nat := 250

/-- The depth of `count` things next to one another, the deepest of which has depth
`depth`: there is one more level if there are several of them. -/
def depthTogether (count depth : Nat) : Nat := if count ≤ 1 then depth else depth + 1

/-- An ASCII class named between colons in brackets; `none` when the text is not of
that form, and then it begins a nested class. -/
def readNamedClass? (f : Flags) (cs : List Char) :
    Option (Except PatternError CharSet × List Char) :=
  match cs with
  | ':' :: rest =>
    let negated := rest.head? == some '^'
    let rest := if negated then rest.drop 1 else rest
    match rest.dropWhile (· != ':') with
    | ':' :: ']' :: after =>
      (CharSet.ascii? (String.ofList (rest.takeWhile (· != ':')))).map fun k =>
        let k := withFlags f k
        (if negated then complementIn f k else .ok k, after)
    | _ => none
  | _ => none

/-- The operations between classes inside brackets. -/
inductive ClassOp where
  /-- `&&` -/
  | inter
  /-- `--` -/
  | diff
  /-- `~~` -/
  | symmDiff

/-- An operation on sets, as the flags have them. -/
def ClassOp.apply (f : Flags) (op : ClassOp) (k l : CharSet) : CharSet :=
  match op with
  | .inter => (withFlags f k).inter (withFlags f l)
  | .diff => (withFlags f k).diff (withFlags f l)
  | .symmDiff => (withFlags f k).symmDiff (withFlags f l)

/-- A class that is being read inside brackets. -/
structure ClassReader where
  /-- Whether the brackets hold the complement. -/
  negated : Bool
  /-- What stands before an operation, its depth, and the operation. -/
  pending : Option (CharSet × Nat × ClassOp) := none
  /-- The union of the items since then. -/
  items : CharSet := .none
  /-- How many items these are. -/
  count : Nat := 0
  /-- The depth of the deepest of them. -/
  depth : Nat := 0

namespace ClassReader

/-- A class with one more item. -/
def add (r : ClassReader) (k : CharSet) (depth : Nat) : ClassReader :=
  { r with items := r.items.union k, count := r.count + 1, depth := max r.depth depth }

/-- The items together with what stands before them, and their depth. -/
def combined (f : Flags) (r : ClassReader) : CharSet × Nat :=
  let depth := depthTogether r.count r.depth
  match r.pending with
  | none => (r.items, depth)
  | some (left, leftDepth, op) => (op.apply f left r.items, max leftDepth depth + 1)

/-- The class behind an operation. -/
def operate (f : Flags) (op : ClassOp) (r : ClassReader) : ClassReader :=
  let (k, depth) := r.combined f
  { negated := r.negated, pending := some (k, depth, op) }

/-- The class when the brackets close, and its depth. -/
def close (f : Flags) (r : ClassReader) : Except PatternError (CharSet × Nat) :=
  let (k, depth) := r.combined f
  let k := withFlags f k
  if r.negated then (complementIn f k).map fun k => (k, depth + 1) else .ok (k, depth + 1)

end ClassReader

/-- The beginning of a class, behind its opening bracket: a mark of complement, then
hyphens that stand for themselves, then a closing bracket that does too if nothing
came before it. -/
def openClass (f : Flags) (cs : List Char) : ClassReader × List Char :=
  let cs := skipBlanks f cs
  let negated := cs.head? == some '^'
  let cs := if negated then skipBlanks f (cs.drop 1) else cs
  let isHyphen := fun c => c == '-' || f.extended && Unicode.isWhiteSpace c
  let hyphens := (cs.takeWhile isHyphen).count '-'
  if hyphens = 0 then
    match cs with
    | ']' :: rest => (({ negated } : ClassReader).add (.one ']') 0, rest)
    | _ => ({ negated }, cs)
  else ({ negated, items := .one '-', count := hyphens }, cs.dropWhile isHyphen)

/-- One end of a range, or an item that is not a range. -/
def readClassItem (f : Flags) (cs : List Char) : Except PatternError (Escaped × List Char) :=
  match cs with
  | [] => .error .classUnclosed
  | '\\' :: rest => do
    match ← readEscape f rest with
    | (.anchor _, _) => .error .badEscape
    | e => .ok e
  | c :: rest => .ok (.char c, rest)

/-- An item of a class: a range, or what is one item alone. -/
def readClassRange (f : Flags) (cs : List Char) : Except PatternError (CharSet × List Char) := do
  let (first, rest) ← readClassItem f cs
  let alone := match first with
    | .char c => CharSet.one c
    | .set k => k
    | .anchor _ => CharSet.none
  match skipBlanks f rest with
  | [] => .error .classUnclosed
  | '-' :: after =>
    match skipBlanks f after with
    | ']' :: _ => return (alone, '-' :: after)
    | '-' :: _ => return (alone, '-' :: after)
    | [] => .error .classUnclosed
    | after =>
      match first, ← readClassItem f after with
      | .char a, (.char b, rest) =>
        if a.toNat ≤ b.toNat then return (CharSet.range a b, rest) else .error .badRange
      | _, _ => .error .badRange
  | rest => return (alone, rest)

/-- The rest of a class inside `level` other classes, up to and with its closing
bracket; `fuel` is at least the length of the text. -/
def readClass (f : Flags) :
    Nat → Nat → ClassReader → List Char → Except PatternError ((CharSet × Nat) × List Char)
  | 0, _, _, _ => .error .classUnclosed
  | fuel + 1, level, r, cs =>
    match skipBlanks f cs with
    | [] => .error .classUnclosed
    | ']' :: rest => (r.close f).map fun k => (k, rest)
    | '&' :: '&' :: rest => readClass f fuel level (r.operate f .inter) rest
    | '-' :: '-' :: rest => readClass f fuel level (r.operate f .diff) rest
    | '~' :: '~' :: rest => readClass f fuel level (r.operate f .symmDiff) rest
    | '[' :: rest =>
      match readNamedClass? f rest with
      | some (k, rest) => do readClass f fuel level (r.add (← k) 0) rest
      | none =>
        if deepest ≤ level then .error .tooDeep
        else do
          let (inner, rest) := openClass f rest
          let ((k, depth), rest) ← readClass f fuel (level + 1) inner rest
          readClass f fuel level (r.add k depth) rest
    | cs => do
      let (k, rest) ← readClassRange f cs
      readClass f fuel level (r.add k 0) rest

end Pattern

end SchemaEngine
