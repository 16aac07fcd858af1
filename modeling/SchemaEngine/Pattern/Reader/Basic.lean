import SchemaEngine.Unicode.WhiteSpace
import SchemaEngine.Text.Hexadecimal

/-!
# Reading patterns: errors, flags and numbers

Why a text is refused as a pattern (`PatternError`), what the letters of flags switch
(`Pattern.Flags`), and the smallest pieces of the notation: blanks and comments, counts
of repetitions, and hexadecimal numbers.
-/

namespace SchemaEngine

/-- Why a text is not a pattern. -/
inductive PatternError where
  /-- A group is not closed. -/
  | groupUnclosed
  /-- A closing parenthesis closes no group. -/
  | groupUnopened
  /-- The name of a group is empty, misspelled, unfinished or taken. -/
  | badGroupName
  /-- A group looks ahead or behind, which patterns cannot. -/
  | lookAround
  /-- A flag is unknown, repeated or missing. -/
  | badFlag
  /-- A repetition has nothing to repeat. -/
  | nothingToRepeat
  /-- The count of a repetition is missing, unfinished or falling. -/
  | badCount
  /-- A class is not closed. -/
  | classUnclosed
  /-- A range has an end that is not a character, or is falling. -/
  | badRange
  /-- An escape is unfinished. -/
  | escapeUnfinished
  /-- An escape is unknown, or not allowed where it stands. -/
  | badEscape
  /-- A hexadecimal escape names no character. -/
  | badHex
  /-- A property is unknown. -/
  | unknownProperty
  /-- A class outside Unicode mode holds bytes that are no characters. -/
  | notText
  /-- Groups, repetitions, classes, sequences and alternatives are nested too deep. -/
  | tooDeep
  /-- The automaton of the pattern takes more bytes than it may. -/
  | tooLarge
deriving DecidableEq

namespace Pattern

/-- What the letters of flags switch. -/
structure Flags where
  /-- `i`: letter case is ignored. -/
  ignoreCase : Bool := false
  /-- `m`: lines have beginnings and ends. -/
  multiLine : Bool := false
  /-- `s`: the point matches line ends. -/
  dotAll : Bool := false
  /-- `u`: classes are those of Unicode. -/
  unicode : Bool := true
  /-- `R`: lines can end in carriage returns. -/
  wideLines : Bool := false
  /-- `x`: blanks and comments are left out. -/
  extended : Bool := false
  /-- `U`: the mark of reluctance makes a repetition greedy, and its absence reluctant. -/
  swapGreed : Bool := false

/-- Drops blanks and comments; a comment goes from a number sign to the end of its
line. -/
def dropBlanks (inComment : Bool) : List Char → List Char
  | [] => []
  | c :: cs =>
    if inComment then dropBlanks (c != '\n') cs
    else if c = '#' then dropBlanks true cs
    else if Unicode.isWhiteSpace c then dropBlanks false cs
    else c :: cs

/-- Drops blanks and comments, if they are left out. -/
def skipBlanks (f : Flags) (cs : List Char) : List Char :=
  if f.extended then dropBlanks false cs else cs

/-- A decimal number below `2 ^ 32`, with blanks around it. -/
def readCount (cs : List Char) : Except PatternError (Nat × List Char) :=
  let cs := cs.dropWhile Unicode.isWhiteSpace
  let digits := cs.takeWhile Char.isDigit
  let rest := (cs.dropWhile Char.isDigit).dropWhile Unicode.isWhiteSpace
  let n := digits.foldl (fun n c => 10 * n + (c.toNat - '0'.toNat)) 0
  if digits.isEmpty || Nat.pow 2 32 ≤ n then .error .badCount else .ok (n, rest)

/-- The character of a run of hexadecimal digits. -/
def hexChar (digits : List Char) : Except PatternError Char :=
  let n := digits.foldl (fun n c => 16 * n + Text.hexValue c) 0
  if digits.isEmpty || digits.any (fun c => !Text.isHexDigit c) then .error .badHex
  else if h : n.isValidChar then .ok (Char.ofNatAux n h)
  else .error .badHex

/-- The character of a hexadecimal escape: a fixed number of digits, or any number
of digits in braces. -/
def readHex (width : Nat) (cs : List Char) : Except PatternError (Char × List Char) :=
  match cs with
  | [] => .error .escapeUnfinished
  | '\x7b' :: rest =>
    let digits := rest.takeWhile (· != '\x7d')
    match rest.dropWhile (· != '\x7d') with
    | [] => .error .escapeUnfinished
    | _ :: rest => (hexChar digits).map fun c => (c, rest)
  | cs =>
    if cs.length < width then .error .escapeUnfinished
    else (hexChar (cs.take width)).map fun c => (c, cs.drop width)

end Pattern

end SchemaEngine
