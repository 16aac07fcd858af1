import SchemaEngine.Number.Decimal

/-!
# Number layouts

How the digits of a number are laid out as text is one record, `Layout`: which
sizes are written without an exponent, whether a number without a fraction keeps a
point and a zero, whether a positive exponent keeps its sign, and which of two
equally near shortest decimals is written.  `Layout.render`
writes a decimal in a layout.

Four layouts are in use: `display` in messages, `document` in JSON text, `spelled` where
the kind of a value is to be seen and `scientific` where every number has an exponent.
-/

namespace SchemaEngine

/-- How a number is laid out as text. -/
structure Layout where
  /-- The least power of ten of a leading digit that is written without exponent. -/
  plainFrom : Int
  /-- The first power of ten of a leading digit that is again written with exponent. -/
  plainBelow : Int
  /-- A plain number without a fraction ends in `.0`. -/
  keepsPoint : Bool
  /-- A positive exponent is written with its sign. -/
  signsExponent : Bool
  /-- Which of two equally near shortest decimals is written. -/
  tie : Decimal.Tie
deriving DecidableEq

namespace Layout

/-- Messages: an exponent from `1e+21` up and below `1e-6`. -/
def display : Layout := ⟨-6, 21, false, true, .larger⟩

/-- JSON text: an exponent from `1e+16` up and below `1e-5`. -/
def document : Layout := ⟨-5, 16, true, true, .even⟩

/-- Spelled out: an exponent from `1e16` up and below `1e-4`, and a point otherwise. -/
def spelled : Layout := ⟨-4, 16, true, false, .larger⟩

/-- Always an exponent, without a plus sign. -/
def scientific : Layout := ⟨0, 0, false, false, .larger⟩

/-- A run of zeros. -/
def zeros (n : Nat) : String := String.ofList (List.replicate n '0')

/-- The first digit, and the others behind a point if there are any. -/
def mantissa (digits : String) : String :=
  match digits.toList with
  | [] => ""
  | [c] => String.ofList [c]
  | c :: cs => String.ofList (c :: '.' :: cs)

/-- The exponent part of a number. -/
def exponent (l : Layout) (e : Int) : String :=
  "e" ++ (if l.signsExponent && decide (0 ≤ e) then "+" else "") ++ toString e

/-- Digits without an exponent: `e` is the power of ten that the last one counts. -/
def plain (l : Layout) (digits : String) (e : Int) : String :=
  let point := (digits.length : Int) + e
  if 0 ≤ e then digits ++ zeros e.toNat ++ (if l.keepsPoint then ".0" else "")
  else if 0 < point then
    String.ofList (digits.toList.take point.toNat) ++ "."
      ++ String.ofList (digits.toList.drop point.toNat)
  else "0." ++ zeros (-point).toNat ++ digits

/-- A decimal in a layout. -/
def render (l : Layout) (d : Decimal) : String :=
  let digits := toString d.digits
  let leading := (digits.length : Int) - 1 + d.exponent
  if l.plainFrom ≤ leading ∧ leading < l.plainBelow then l.plain digits d.exponent
  else mantissa digits ++ l.exponent leading

/-- A finite number of units, with its sign, in a layout. -/
def renderUnits (l : Layout) (negative : Bool) (u : Nat) : String :=
  (if negative then "-" else "") ++ l.render (if u = 0 then ⟨0, 0⟩ else Double.shortest l.tie u)

end Layout

/-- A number in a layout; NaN and the infinities have names. -/
def Double.render (l : Layout) : Double → String
  | .nan => "NaN"
  | .infinite false => "Infinity"
  | .infinite true => "-Infinity"
  | .finite s u _ => l.renderUnits s u

/-- A number as messages show it: integers smaller than `2 ^ 53` by their digits,
which leaves negative zero without its sign, and anything else in the `display`
layout. -/
def Double.display (x : Double) : String :=
  match x.exactInteger? with
  | some n => toString n
  | none => x.render .display

/-- A number spelled out. -/
def Double.spelled : Double → String
  | .nan => "NaN"
  | .infinite false => "inf"
  | .infinite true => "-inf"
  | .finite s u _ => Layout.spelled.renderUnits s u

end SchemaEngine
