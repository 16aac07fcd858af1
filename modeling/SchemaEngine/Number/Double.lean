/-!
# Double-precision numbers

A finite double is a sign and a whole number of units of `2 ^ -1074`, the
smallest positive double.  Which numbers of units exist is `Representable`: a
double keeps 53 binary digits, so `u` units exist when `u` is a multiple of the
gap between neighbouring doubles at `u` (`spacing`), and stays below the bound
where infinity begins.  Counting units makes every question about the value of a
double a question about a natural number, and gives every value one spelling, the
two signs of zero apart.

Every operation that can be inexact ends in `ofRatio`, which rounds an exact
quotient of natural numbers to the nearest double, a tie going to the even
neighbour.  That the rounded number of units is representable is
`nearestMultiple_eq_of_representable` for a number that needs no rounding; a
result at or above the bound is infinite.

Comparison (`equals`, `less`, `atMost`) follows the values: a NaN is unequal to
everything, itself included, and the two zeros are equal.
-/

namespace SchemaEngine

namespace Double

/-- The number of units in one. -/
def one : Nat := Nat.pow 2 1074

/-- The number of units at which infinity begins. -/
def bound : Nat := Nat.pow 2 2098

/-- The gap, in units, between neighbouring doubles at `u` units. -/
def spacing (u : Nat) : Nat := Nat.pow 2 (u.log2 - 52)

/-- A double of exactly `u` units exists. -/
def Representable (u : Nat) : Prop := u < bound ∧ u % spacing u = 0

instance (u : Nat) : Decidable (Representable u) :=
  inferInstanceAs (Decidable (_ ∧ _))

theorem representable_zero : Representable 0 := by decide +kernel

end Double

/-- A double-precision number. -/
inductive Double where
  /-- Not a number. -/
  | nan
  /-- Infinity, with its sign. -/
  | infinite (negative : Bool)
  /-- A finite number: a sign and a number of units. -/
  | finite (negative : Bool) (units : Nat) (representable : Double.Representable units)
deriving DecidableEq

namespace Double

/-! ## Rounding -/

/-- The multiple of `step` nearest to `num / den`; a tie goes to the even multiple. -/
def nearestMultiple (num den step : Nat) : Nat :=
  let below := num / (den * step)
  let rest := num % (den * step)
  if 2 * rest < den * step then below * step
  else if den * step < 2 * rest then (below + 1) * step
  else (below + below % 2) * step

/-- The double of `u` units, if there is one; infinity otherwise. -/
def ofUnits (negative : Bool) (u : Nat) : Double :=
  if h : Representable u then .finite negative u h else .infinite negative

/-- The double nearest to `num / den` units. -/
def ofRatio (negative : Bool) (num den : Nat) : Double :=
  ofUnits negative (nearestMultiple num den (spacing (num / den)))

/-- A number of units that exists is not changed by rounding. -/
theorem nearestMultiple_eq_of_representable {u : Nat} (h : Representable u) :
    nearestMultiple u 1 (spacing (u / 1)) = u := by
  have hs : 0 < spacing u := Nat.two_pow_pos _
  have hd : spacing u ∣ u := Nat.dvd_of_mod_eq_zero h.2
  simp [nearestMultiple, h.2, hs, Nat.div_mul_cancel hd]

theorem ofRatio_one_of_representable (negative : Bool) {u : Nat} (h : Representable u) :
    ofRatio negative u 1 = .finite negative u h := by
  rw [ofRatio, nearestMultiple_eq_of_representable h, ofUnits, dif_pos h]

/-! ## Constants and conversions -/

/-- Zero, with its sign. -/
def zero (negative : Bool) : Double := .finite negative 0 representable_zero

/-- The double nearest to an integer. -/
def ofInt (n : Int) : Double := ofRatio (n < 0) (n.natAbs * one) 1

/-- The double nearest to `digits * 10 ^ exponent`.  Exponents far outside the
range of doubles are settled by their size alone. -/
def ofDecimal (negative : Bool) (digits : Nat) (exponent : Int) : Double :=
  if digits = 0 then zero negative
  else if 400 < exponent then .infinite negative
  else if 3 * exponent + digits.log2 < -1200 then zero negative
  else match exponent with
    | .ofNat e => ofRatio negative (digits * Nat.pow 10 e * one) 1
    | .negSucc e => ofRatio negative (digits * one) (Nat.pow 10 (e + 1))

/-! ## The value of a double -/

/-- A number of units with its sign. -/
def signed (negative : Bool) (u : Nat) : Int := if negative then -(u : Int) else u

/-- Neither infinite nor NaN. -/
def isFinite : Double → Bool
  | .finite .. => true
  | _ => false

/-- Whether a double is the NaN. -/
def isNaN : Double → Bool
  | .nan => true
  | _ => false

/-- Whether a double is either zero. -/
def isZero : Double → Bool
  | .finite _ u _ => u == 0
  | _ => false

/-- The integer a double stands for, when it is finite and has no fraction. -/
def wholeNumber? : Double → Option Int
  | .finite s u _ => if u % one = 0 then some (signed s (u / one)) else none
  | _ => none

/-- A finite double without a fraction. -/
def isWhole (x : Double) : Bool := x.wholeNumber?.isSome

/-- The integer a double stands for, when it is smaller than `2 ^ 53` in size, so
that no other integer shares its double. -/
def exactInteger? (x : Double) : Option Int :=
  match x.wholeNumber? with
  | some n => if n.natAbs < Nat.pow 2 53 then some n else none
  | none => none

/-! ## Comparison -/

/-- Equality of numbers: the zeros are equal, and NaN equals nothing. -/
def equals : Double → Double → Bool
  | .finite s u _, .finite t w _ => signed s u == signed t w
  | .infinite s, .infinite t => s == t
  | _, _ => false

/-- Strict order of numbers; false if either is NaN. -/
def less : Double → Double → Bool
  | .finite s u _, .finite t w _ => decide (signed s u < signed t w)
  | .finite .., .infinite t => !t
  | .infinite s, .finite .. => s
  | .infinite s, .infinite t => s && !t
  | _, _ => false

/-- Order of numbers; false if either is NaN. -/
def atMost (x y : Double) : Bool := x.less y || x.equals y

/-! ## Arithmetic -/

/-- The number with the other sign. -/
def neg : Double → Double
  | .finite s u h => .finite (!s) u h
  | .infinite s => .infinite (!s)
  | .nan => .nan

/-- The number without its sign. -/
def abs : Double → Double
  | .finite _ u h => .finite false u h
  | .infinite _ => .infinite false
  | .nan => .nan

/-- The rounded sum; a sum of zero is negative only if both numbers are. -/
def add : Double → Double → Double
  | .finite s u _, .finite t w _ =>
    let sum := signed s u + signed t w
    if sum = 0 then zero (s && t) else ofRatio (sum < 0) sum.natAbs 1
  | .infinite s, .infinite t => if s = t then .infinite s else .nan
  | .infinite s, .finite .. => .infinite s
  | .finite .., .infinite t => .infinite t
  | _, _ => .nan

/-- The rounded difference. -/
def sub (x y : Double) : Double := x.add y.neg

/-- The rounded product. -/
def mul : Double → Double → Double
  | .finite s u _, .finite t w _ => ofRatio (s != t) (u * w) one
  | .infinite s, .infinite t => .infinite (s != t)
  | .infinite s, .finite t w _ => if w = 0 then .nan else .infinite (s != t)
  | .finite s u _, .infinite t => if u = 0 then .nan else .infinite (s != t)
  | _, _ => .nan

/-- The rounded quotient. -/
def div : Double → Double → Double
  | .finite s u _, .finite t w _ =>
    if w = 0 then if u = 0 then .nan else .infinite (s != t)
    else ofRatio (s != t) (u * one) w
  | .infinite s, .finite t .. => .infinite (s != t)
  | .finite s .., .infinite t => zero (s != t)
  | _, _ => .nan

/-- The nearest integer, a half going away from zero. -/
def roundHalfAway : Double → Double
  | .finite s u _ => ofUnits s ((2 * u + one) / (2 * one) * one)
  | x => x

/-- The larger of two numbers; a NaN gives way to the other number. -/
def max (x y : Double) : Double :=
  if x.isNaN || x.less y then y else x

end Double

end SchemaEngine
