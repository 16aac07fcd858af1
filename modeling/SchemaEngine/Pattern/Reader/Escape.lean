import SchemaEngine.Pattern.Basic
import SchemaEngine.Pattern.CharSet
import SchemaEngine.Pattern.Reader.Basic

/-!
# Reading patterns: escapes

What a backslash and the text behind it stand for: a character, a set of characters or
an anchor.  A letter that has no meaning here is refused, and so is every escaped
character outside ASCII.
-/

namespace SchemaEngine

namespace Pattern

/-- A set as the flags have it. -/
def withFlags (f : Flags) (k : CharSet) : CharSet :=
  if f.ignoreCase then k.ignoringCase else k

/-- The complement of a set, which outside Unicode mode would hold bytes that are no
characters. -/
def complementIn (f : Flags) (k : CharSet) : Except PatternError CharSet :=
  if f.unicode then .ok k.complement else .error .notText

/-- What an escape stands for. -/
inductive Escaped where
  /-- A character. -/
  | char (c : Char)
  /-- A set of characters. -/
  | set (k : CharSet)
  /-- An anchor. -/
  | anchor (a : Anchor)

/-- The set of an escape letter. -/
def letterSet? (f : Flags) (c : Char) : Option CharSet :=
  if c = 'd' ∨ c = 'D' then
    some (if f.unicode then CharSet.decimalDigit else CharSet.asciiDigit)
  else if c = 's' ∨ c = 'S' then
    some (if f.unicode then CharSet.whiteSpace else CharSet.asciiSpace)
  else if c = 'w' ∨ c = 'W' then
    some (if f.unicode then CharSet.wordCharacter else CharSet.asciiWord)
  else none

/-- The set of a property, by one letter or by a name in braces. -/
def readProperty (f : Flags) (negated : Bool) (cs : List Char) :
    Except PatternError (Escaped × List Char) := do
  let (name, rest) ← match cs with
    | [] => .error .escapeUnfinished
    | '\x7b' :: rest =>
      match rest.dropWhile (· != '\x7d') with
      | [] => .error .escapeUnfinished
      | _ :: after => .ok (rest.takeWhile (· != '\x7d'), after)
    | c :: rest => .ok ([c], rest)
  let (negated, name) := match name with
    | '^' :: name => (!negated, name)
    | name => (negated, name)
  let plain := (name.filter fun c => c != '_' && c != '-' && c != ' ').map Char.toLower
  match CharSet.property? (String.ofList plain) with
  | none => .error .unknownProperty
  | some k =>
    let k := withFlags f k
    if negated then return (.set (← complementIn f k), rest)
    else return (.set k, rest)

/-- The anchor of a word boundary named in braces. -/
def namedBoundary? (name : String) : Option Anchor :=
  match name with
  | "start" => some .wordStart
  | "end" => some .wordEnd
  | "start-half" => some .noWordBefore
  | "end-half" => some .noWordAfter
  | _ => none

/-- Whether a character can stand in the name of a word boundary. -/
def isBoundaryName (c : Char) : Bool := c.isAlpha || c == '-'

/-- What follows `\b`: a name in braces makes it another anchor; braces that do not
begin with a letter are a count of repetitions. -/
def readBoundary (f : Flags) (cs : List Char) : Except PatternError (Escaped × List Char) :=
  match cs with
  | '\x7b' :: rest =>
    match skipBlanks f rest with
    | [] => .error .badEscape
    | c :: more =>
      if isBoundaryName c then
        match (c :: more).dropWhile isBoundaryName with
        | '\x7d' :: after =>
          match namedBoundary? (String.ofList ((c :: more).takeWhile isBoundaryName)) with
          | some a => .ok (.anchor a, after)
          | none => .error .badEscape
        | _ => .error .badEscape
      else .ok (.anchor .wordBoundary, cs)
  | _ => .ok (.anchor .wordBoundary, cs)

/-- What an escape takes literally: all of ASCII but letters, digits, `<` and `>`. -/
def isEscapable (c : Char) : Bool :=
  decide (c.toNat < 128) && !c.isAlphanum && c != '<' && c != '>'

/-- What a backslash and the text behind it stand for. -/
def readEscape (f : Flags) (cs : List Char) : Except PatternError (Escaped × List Char) :=
  match cs with
  | [] => .error .escapeUnfinished
  | 'x' :: rest => (readHex 2 rest).map fun (c, rest) => (.char c, rest)
  | 'u' :: rest => (readHex 4 rest).map fun (c, rest) => (.char c, rest)
  | 'U' :: rest => (readHex 8 rest).map fun (c, rest) => (.char c, rest)
  | 'p' :: rest => readProperty f false rest
  | 'P' :: rest => readProperty f true rest
  | 'b' :: rest => readBoundary f rest
  | 'B' :: rest => .ok (.anchor .noWordBoundary, rest)
  | 'A' :: rest => .ok (.anchor .textStart, rest)
  | 'z' :: rest => .ok (.anchor .textEnd, rest)
  | '<' :: rest => .ok (.anchor .wordStart, rest)
  | '>' :: rest => .ok (.anchor .wordEnd, rest)
  | 'a' :: rest => .ok (.char '\x07', rest)
  | 'f' :: rest => .ok (.char '\x0c', rest)
  | 't' :: rest => .ok (.char '\t', rest)
  | 'n' :: rest => .ok (.char '\n', rest)
  | 'r' :: rest => .ok (.char '\r', rest)
  | 'v' :: rest => .ok (.char '\x0b', rest)
  | c :: rest =>
    match letterSet? f c with
    | some k =>
      if c = 'D' ∨ c = 'S' ∨ c = 'W' then (complementIn f k).map fun k => (.set k, rest)
      else .ok (.set k, rest)
    | none =>
      if isEscapable c then .ok (.char c, rest)
      else .error .badEscape

end Pattern

end SchemaEngine
