import SchemaEngine.Number.Double

/-!
# Decimal digits of a double

A `Decimal` is a natural number of digits and a power of ten.  Two directions meet
here.  `Decimal.read?` reads decimal text, and `Double.read?` goes on to the
nearest double.  `Double.shortest` finds, for a number of units, the decimal with
the fewest digits that reads back as the same double, and among those the nearest:
it walks the decimal grids from coarse to fine and takes the first grid that holds
a point reading back (`readsBack`).  If a grid holds such a point, then one of the
two neighbours of the number on that grid is such a point, so only those two are
tried.  Two neighbours can be equally near, and then a `Tie` rule decides.
-/

namespace SchemaEngine

/-- The number `digits * 10 ^ exponent`. -/
structure Decimal where
  /-- The digits, read as a natural number. -/
  digits : Nat
  /-- The power of ten that the last digit counts. -/
  exponent : Int
deriving DecidableEq

namespace Decimal

/-! ## Reading -/

/-- The number that a run of decimal digits spells. -/
def ofDigits (cs : List Char) : Nat :=
  cs.foldl (fun n c => 10 * n + (c.toNat - '0'.toNat)) 0

/-- A non-empty run of decimal digits and nothing else. -/
def readDigits? (cs : List Char) : Option Nat :=
  if !cs.isEmpty && cs.all Char.isDigit then some (ofDigits cs) else none

/-- The exponent part of decimal text: nothing, or `e` and a signed run of digits. -/
def readExponent? : List Char → Option Int
  | [] => some 0
  | c :: cs =>
    if c = 'e' ∨ c = 'E' then
      match cs with
      | '-' :: ds => (readDigits? ds).map fun (n : Nat) => -(n : Int)
      | '+' :: ds => (readDigits? ds).map fun (n : Nat) => (n : Int)
      | ds => (readDigits? ds).map fun (n : Nat) => (n : Int)
    else none

/-- Unsigned decimal text: digits with a point anywhere among or beside at least
one digit, and perhaps an exponent. -/
def read? (cs : List Char) : Option Decimal :=
  let whole := cs.takeWhile Char.isDigit
  let rest := cs.dropWhile Char.isDigit
  let fraction := match rest with
    | '.' :: r => r.takeWhile Char.isDigit
    | _ => []
  let tail := match rest with
    | '.' :: r => r.dropWhile Char.isDigit
    | r => r
  if whole.isEmpty && fraction.isEmpty then none
  else (readExponent? tail).map fun e =>
    { digits := ofDigits (whole ++ fraction), exponent := e - fraction.length }

/-! ## The decimal grids -/

/-- The greatest multiple of `10 ^ i`, counted in such multiples, that is not above
`u` units. -/
def floorOnGrid (u : Nat) (i : Int) : Nat :=
  match i with
  | .ofNat e => u / (Double.one * Nat.pow 10 e)
  | .negSucc e => u * Nat.pow 10 (e + 1) / Double.one

/-- How far `u` units lie from the grid point `d * 10 ^ i`, in a measure common to
all points of that grid. -/
def distanceOnGrid (u d : Nat) (i : Int) : Nat :=
  match i with
  | .ofNat e => ((u : Int) - (d * Nat.pow 10 e * Double.one : Nat)).natAbs
  | .negSucc e => ((u * Nat.pow 10 (e + 1) : Nat) - (d * Double.one : Nat) : Int).natAbs

/-- The decimal reads back as the double of `u` units. -/
def readsBack (u : Nat) (d : Decimal) : Bool :=
  match Double.ofDecimal false d.digits d.exponent with
  | .finite _ w _ => w == u
  | _ => false

/-- Which of two equally near decimals is taken. -/
inductive Tie where
  /-- The larger one. -/
  | larger
  /-- The one whose last digit is even. -/
  | even
deriving DecidableEq

/-- Whether the upper of the two neighbours `d` and `d + 1` of `u` units on a grid
is taken. -/
def takesUpper (tie : Tie) (u d : Nat) (i : Int) : Bool :=
  let down := distanceOnGrid u d i
  let up := distanceOnGrid u (d + 1) i
  if up = down then
    match tie with
    | .larger => true
    | .even => d % 2 == 1
  else decide (up < down)

/-- The point of one grid that reads back as `u` units and is nearest to them. -/
def onGrid? (tie : Tie) (u : Nat) (i : Int) : Option Decimal :=
  let d := floorOnGrid u i
  let below : Decimal := { digits := d, exponent := i }
  let above : Decimal := { digits := d + 1, exponent := i }
  if readsBack u below then
    if readsBack u above && takesUpper tie u d i then some above else some below
  else if readsBack u above then some above
  else none

/-- A power of ten above twice the number, from its binary size: one binary digit
is 0.30103 decimal digits. -/
def coarsest (u : Nat) : Int := ((u.log2 : Int) - 1072) * 30103 / 100000 + 1

end Decimal

/-- The decimal of fewest digits that reads back as the double of `u` units, and
the nearest of those.  Seventeen digits always read back, so twenty-four grids are
enough. -/
def Double.shortest (tie : Decimal.Tie) (u : Nat) : Decimal :=
  let found := (List.range 24).findSome? fun (i : Nat) =>
    Decimal.onGrid? tie u (Decimal.coarsest u - (i : Int))
  found.getD { digits := 0, exponent := 0 }

/-- The double that a name stands for, with the sign that stood before the name.
Letter case does not count, and the NaN has no sign. -/
def Double.named? (negative : Bool) (cs : List Char) : Option Double :=
  let name := cs.map Char.toLower
  if name = ['n', 'a', 'n'] then some .nan
  else if name = ['i', 'n', 'f'] ∨ name = ['i', 'n', 'f', 'i', 'n', 'i', 't', 'y'] then
    some (.infinite negative)
  else none

/-- Reads what stands behind the sign of a number: a name or decimal text. -/
def Double.readBehindSign? (negative : Bool) (cs : List Char) : Option Double :=
  match Double.named? negative cs with
  | some x => some x
  | none => (Decimal.read? cs).map fun d => Double.ofDecimal negative d.digits d.exponent

/-- Reads a number: perhaps a sign, and then decimal text or the name of a value
that has no digits.  A minus sign before zero gives the negative zero. -/
def Double.read? (s : String) : Option Double :=
  match s.toList with
  | '-' :: cs => Double.readBehindSign? true cs
  | '+' :: cs => Double.readBehindSign? false cs
  | cs => Double.readBehindSign? false cs

end SchemaEngine
