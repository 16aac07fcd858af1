import SchemaEngine.Pattern.Basic
import SchemaEngine.Pattern.CharSet

/-!
# Terms

A `Term` is a pattern as it is written, in a normal form: sequences and alternatives
lean to the right, neighbouring texts are one text, a set of one character is a text,
alternatives of single characters are a set, and what all alternatives begin with
stands before them.  The functions `ofSet`, `sequence`, `alternatives` and `repeating`
keep the form.

`Term.pattern` is what a term matches.  A term also keeps what does not matter for
that and matters for its size: which groups have a number, and which repetitions are
reluctant.
-/

namespace SchemaEngine

/-- A pattern as it is written, in normal form. -/
inductive Term where
  /-- The empty piece. -/
  | empty
  /-- A text, of one character at least. -/
  | text (cs : List Char)
  /-- One character of a set, which has none or several. -/
  | set (k : CharSet)
  /-- The empty piece at a place that an anchor allows. -/
  | anchor (a : Anchor)
  /-- Pieces one after the other, at least `least`, and at most `greatest` if there is a
  bound; `greedy` if rather more of them. -/
  | repeated (least : Nat) (greatest : Option Nat) (greedy : Bool) (t : Term)
  /-- A numbered group. -/
  | group (number : Nat) (t : Term)
  /-- A piece of the first term, which is no sequence, and then one of the second. -/
  | seq (t u : Term)
  /-- A piece of the first term, which is no alternative, or one of the second. -/
  | alt (t u : Term)
deriving DecidableEq

namespace Term

/-- What a term matches. -/
def pattern : Term → Pattern
  | .empty => .empty
  | .text cs => .seqAll (cs.map .literal)
  | .set k => .char k.contains
  | .anchor a => .anchor a
  | .repeated least greatest _ t => .repeated least greatest t.pattern
  | .group _ t => t.pattern
  | .seq t u => .seq t.pattern u.pattern
  | .alt t u => .alt t.pattern u.pattern

/-! ## Lengths and anchors -/

/-- The number of bytes of the shortest piece, by the form of the term; `none` where no
piece is. -/
def shortest? : Term → Option Nat
  | .empty => some 0
  | .text cs => some (cs.map Char.utf8Size).sum
  | .set k => k.ranges.head?.map fun r => (Char.ofNat r.1).utf8Size
  | .anchor _ => some 0
  | .repeated least _ _ t => t.shortest?.map (least * ·)
  | .group _ t => t.shortest?
  | .seq t u =>
    match t.shortest?, u.shortest? with
    | some m, some n => some (m + n)
    | _, _ => none
  | .alt t u =>
    match t.shortest?, u.shortest? with
    | some m, some n => some (min m n)
    | _, _ => none

/-- The number of bytes of the longest piece, by the form of the term; `none` where
there is no bound or no piece. -/
def longest? : Term → Option Nat
  | .empty => some 0
  | .text cs => some (cs.map Char.utf8Size).sum
  | .set k => k.ranges.getLast?.map fun r => (Char.ofNat r.2).utf8Size
  | .anchor _ => some 0
  | .repeated _ greatest _ t =>
    match greatest, t.longest? with
    | some m, some n => some (m * n)
    | _, _ => none
  | .group _ t => t.longest?
  | .seq t u =>
    match t.longest?, u.longest? with
    | some m, some n => some (m + n)
    | _, _ => none
  | .alt t u =>
    match t.longest?, u.longest? with
    | some m, some n => some (max m n)
    | _, _ => none

/-- Whether every piece begins at the beginning of the text, by the form of the term. -/
def beginsText : Term → Bool
  | .anchor a => a == .textStart
  | .repeated least _ _ t => least != 0 && t.beginsText
  | .group _ t => t.beginsText
  | .seq t u => t.beginsText || t.longest? == some 0 && u.beginsText
  | .alt t u => t.beginsText && u.beginsText
  | _ => false

/-- Whether every piece ends at the end of the text, by the form of the term. -/
def endsText : Term → Bool
  | .anchor a => a == .textEnd
  | .repeated least _ _ t => least != 0 && t.endsText
  | .group _ t => t.endsText
  | .seq t u => u.endsText || t.endsText && u.longest? == some 0
  | .alt t u => t.endsText && u.endsText
  | _ => false

/-! ## Sets and repetitions -/

/-- One character of a set. -/
def ofSet (k : CharSet) : Term :=
  match k.only? with
  | some c => .text [c]
  | none => .set k

/-- A repetition.  Where only the empty piece can be repeated, once is enough. -/
def repeating (least : Nat) (greatest : Option Nat) (greedy : Bool) (t : Term) : Term :=
  let (least, greatest) :=
    if t.longest? = some 0 then (min least 1, some (min (greatest.getD 1) 1))
    else (least, greatest)
  if greatest = some 0 then .empty
  else if least = 1 ∧ greatest = some 1 then t
  else .repeated least greatest greedy t

/-! ## Sequences -/

/-- The parts of a sequence. -/
def parts : Term → List Term
  | .empty => []
  | .seq t u => t :: u.parts
  | t => [t]

/-- The sequence of some parts. -/
def ofParts : List Term → Term
  | [] => .empty
  | [t] => t
  | t :: ts => .seq t (ofParts ts)

/-- Joins neighbouring texts. -/
def joinTexts : List Term → List Term
  | [] => []
  | .text cs :: ts =>
    match joinTexts ts with
    | .text ds :: more => .text (cs ++ ds) :: more
    | more => .text cs :: more
  | t :: ts => t :: joinTexts ts

/-- Terms one after the other. -/
def sequence (ts : List Term) : Term := ofParts (joinTexts (ts.flatMap parts))

/-! ## Alternatives -/

/-- The branches of an alternative. -/
def branches : Term → List Term
  | .alt t u => t :: u.branches
  | t => [t]

/-- The alternative of some branches. -/
def ofBranches : List Term → Term
  | [] => .set .none
  | [t] => t
  | t :: ts => .alt t (ofBranches ts)

/-- The characters of terms that are texts of one character each. -/
def singles? : List Term → Option CharSet
  | [] => some .none
  | .text [c] :: ts => (singles? ts).map (CharSet.one c).union
  | _ => none

/-- The characters of terms that are sets. -/
def sets? : List Term → Option CharSet
  | [] => some .none
  | .set k :: ts => (sets? ts).map k.union
  | _ => none

/-- Any one of some terms; single characters become a set, and sets become one set. -/
def choice (ts : List Term) : Term :=
  match ts.flatMap branches with
  | [t] => t
  | ts =>
    match singles? ts <|> sets? ts with
    | some k => ofSet k
    | none => ofBranches ts

/-- What two lists begin with. -/
def commonPrefix : List Term → List Term → List Term
  | t :: ts, u :: us => if t = u then t :: commonPrefix ts us else []
  | _, _ => []

/-- The parts that all terms begin with, if all are sequences. -/
def lead : List Term → List Term
  | [] => []
  | [.seq t u] => t :: u.parts
  | .seq t u :: ts => commonPrefix (t :: u.parts) (lead ts)
  | _ => []

/-- Any one of some terms.  The parts that all of them begin with are taken out. -/
def alternatives (ts : List Term) : Term :=
  match choice ts with
  | .alt t u =>
    let bs := t :: u.branches
    match lead bs with
    | [] => .alt t u
    | ps => sequence (ps ++ [choice (bs.map fun b => sequence (b.parts.drop ps.length))])
  | t => t

end Term

end SchemaEngine
