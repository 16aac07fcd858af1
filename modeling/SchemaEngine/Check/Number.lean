import SchemaEngine.Check.Basic

/-!
# Checks of numbers

Bounds are included.  Whether a number is a multiple of another is decided within a
tolerance, because a quotient of decimal fractions is seldom a whole number: what
remains after the nearest whole multiple is taken away may be as large as a
billionth of the divisor, or as a few units in the last place of the number.
-/

namespace SchemaEngine
namespace Check

/-- A refinement of numbers. -/
def number (p : Double → Bool) (requirement : String) : Step :=
  onInput (Condition.number p) (must ("be " ++ requirement))

/-- Not below a bound. -/
def min (x : Double) : Step := number (fun y => x.atMost y) ("at least " ++ x.display)

/-- Not above a bound. -/
def max (x : Double) : Step := number (fun y => y.atMost x) ("at most " ++ x.display)

/-- A whole number. -/
def int : Step := number Double.isWhole "an integer"

/-- Above zero. -/
def positive : Step := number (fun x => (Double.zero false).less x) "positive"

/-- Zero or above. -/
def nonNegative : Step := number (fun x => (Double.zero false).atMost x) "non-negative"

/-- Below zero. -/
def negative : Step := number (fun x => x.less (Double.zero false)) "negative"

/-- A billionth, the tolerance in units of the divisor. -/
def billionth : Double := Double.ofDecimal false 1 (-9)

/-- Four units in the last place of one, the tolerance in units of the number. -/
def fourUlps : Double := (Double.ofInt 1).div (Double.ofInt (Nat.pow 2 50))

/-- How far from a whole multiple a number may be. -/
def tolerance (x divisor : Double) : Double :=
  (billionth.mul divisor.abs).max (fourUlps.mul x.abs)

/-- What remains of a number when the nearest whole multiple is taken away. -/
def remainder (x divisor : Double) : Double :=
  x.sub ((x.div divisor).roundHalfAway.mul divisor)

/-- Whether a number is a multiple of another, within the tolerance; nothing is a
multiple of zero or of what is not finite. -/
def isMultiple (x divisor : Double) : Bool :=
  if divisor.isZero || !divisor.isFinite then false
  else (remainder x divisor).abs.atMost (tolerance x divisor)

/-- A multiple of a number, within the tolerance. -/
def multipleOf (divisor : Double) : Step :=
  number (fun x => isMultiple x divisor) ("a multiple of " ++ divisor.display)

end Check
end SchemaEngine
