import SchemaEngine.Unicode.Alphabetic
import SchemaEngine.Unicode.Numeric
import SchemaEngine.Pattern.Reader.Basic

/-!
# Reading patterns: names, flags and counts

What stands behind the opening of a group, its name or the flags that hold in it, and
the bounds of a counted repetition.
-/

namespace SchemaEngine

namespace Pattern

/-- Whether a repetition is greedy, by the mark of reluctance behind it, and what comes
behind that. -/
def readGreed (f : Flags) (cs : List Char) : Bool × List Char :=
  match cs with
  | '?' :: rest => (f.swapGreed, rest)
  | cs => (!f.swapGreed, cs)

/-- The bounds of a counted repetition, behind its opening brace. -/
def readBounds (f : Flags) (cs : List Char) :
    Except PatternError ((Nat × Option Nat) × List Char) := do
  let (least, rest) ← readCount cs
  match rest with
  | '\x7d' :: rest => return ((least, some least), rest)
  | ',' :: rest =>
    match skipBlanks f rest with
    | '\x7d' :: rest => return ((least, none), rest)
    | rest =>
      let (greatest, rest) ← readCount rest
      match rest with
      | '\x7d' :: rest =>
        if least ≤ greatest then return ((least, some greatest), rest) else .error .badCount
      | _ => .error .badCount
  | _ => .error .badCount

/-- Whether a character can begin the name of a group. -/
def beginsName (c : Char) : Bool := c == '_' || Unicode.isAlphabetic c

/-- Whether a character can stand in the name of a group. -/
def isNameChar (c : Char) : Bool :=
  beginsName c || Unicode.isNumeric c || c == '.' || c == '[' || c == ']'

/-- The name of a group, up to and with the bracket that ends it. -/
def readName (taken : List String) (cs : List Char) : Except PatternError (String × List Char) :=
  let name := cs.takeWhile (· != '>')
  match cs.dropWhile (· != '>'), name with
  | [], _ => .error .badGroupName
  | _, [] => .error .badGroupName
  | _ :: rest, c :: more =>
    if beginsName c && more.all isNameChar && !taken.contains (String.ofList name) then
      .ok (String.ofList name, rest)
    else .error .badGroupName

/-- Flags with one of them switched, if the letter is one of a flag. -/
def Flags.switch? (f : Flags) (on : Bool) (c : Char) : Option Flags :=
  match c with
  | 'i' => some { f with ignoreCase := on }
  | 'm' => some { f with multiLine := on }
  | 's' => some { f with dotAll := on }
  | 'u' => some { f with unicode := on }
  | 'R' => some { f with wideLines := on }
  | 'x' => some { f with extended := on }
  | 'U' => some { f with swapGreed := on }
  | _ => none

/-- The letters of flags, up to the character that ends them: `on` until a hyphen,
which needs a letter behind it, and off from there on. -/
def readFlags (f : Flags) (on : Bool) (seen : List Char) :
    List Char → Except PatternError (Flags × List Char)
  | [] => .error .badFlag
  | c :: rest =>
    if c = ')' ∨ c = ':' then
      if seen.head? == some '-' then .error .badFlag else .ok (f, c :: rest)
    else if c = '-' then
      if on then readFlags f false ('-' :: seen) rest else .error .badFlag
    else if seen.contains c then .error .badFlag
    else
      match f.switch? on c with
      | some f => readFlags f on (c :: seen) rest
      | none => .error .badFlag

end Pattern

end SchemaEngine
