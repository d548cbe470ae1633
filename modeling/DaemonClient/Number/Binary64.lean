/-! Binary floating-point numbers of 64 bits, held by their bits. Every operation here is exact arithmetic on
naturals: reading a decimal fraction rounds once, to nearest with ties to even, and comparing with an integer does
not round at all. -/

namespace DaemonClient

/-- A 64-bit floating-point number: one sign bit, eleven exponent bits and fifty-two fraction bits. -/
structure Binary64 where
  bits : UInt64
  deriving DecidableEq, Repr

namespace Binary64

def negative (x : Binary64) : Bool := Nat.pow 2 63 ≤ x.bits.toNat

/-- The exponent field, from 0 to 2047. -/
def exponentField (x : Binary64) : Nat := x.bits.toNat / Nat.pow 2 52 % 2048

/-- The fraction field, below 2^52. -/
def fractionField (x : Binary64) : Nat := x.bits.toNat % Nat.pow 2 52

def isNaN (x : Binary64) : Bool := x.exponentField == 2047 && x.fractionField != 0

def isInfinite (x : Binary64) : Bool := x.exponentField == 2047 && x.fractionField == 0

def isFinite (x : Binary64) : Bool := x.exponentField != 2047

def isZero (x : Binary64) : Bool := x.exponentField == 0 && x.fractionField == 0

/-- The integer significand of a finite number: its magnitude is `significand * 2 ^ scale`. -/
def significand (x : Binary64) : Nat :=
  if x.exponentField = 0 then x.fractionField else Nat.pow 2 52 + x.fractionField

/-- The binary exponent of a finite number's unit. -/
def scale (x : Binary64) : Int := (max x.exponentField 1 : Nat) - 1075

/-- The bits of a magnitude, with a sign. -/
def ofMagnitude (negative : Bool) (magnitude : Nat) : Binary64 :=
  ⟨UInt64.ofNat (magnitude + if negative then Nat.pow 2 63 else 0)⟩

def nan : Binary64 := ofMagnitude false 0x7FF8000000000000

def infinity (negative : Bool) : Binary64 := ofMagnitude negative 0x7FF0000000000000

/-- The quotient of two naturals, rounded to the nearest integer, a tie to the even one. -/
def roundQuotient (num den : Nat) : Nat :=
  let q := num / den
  let r := num % den
  if 2 * r < den then q else if den < 2 * r then q + 1 else q + q % 2

/-- The number nearest to a positive fraction. The unit is the power of two that leaves fifty-three digits before
the point, but no smaller than the smallest unit; a significand that rounds up to 2^53 carries into the exponent
field by itself. -/
def ofFraction (negative : Bool) (num den : Nat) : Binary64 :=
  let rough : Int := (num.log2 : Int) - den.log2
  let below : Bool := if 0 ≤ rough then num < den * Nat.pow 2 rough.toNat else num * Nat.pow 2 (-rough).toNat < den
  let unit : Int := max (rough - (if below then 1 else 0) - 52) (-1074)
  let significand :=
    if 0 ≤ unit then roundQuotient num (den * Nat.pow 2 unit.toNat)
    else roundQuotient (num * Nat.pow 2 (-unit).toNat) den
  let magnitude := (unit + 1074).toNat * Nat.pow 2 52 + significand
  if 0x7FF0000000000000 ≤ magnitude then infinity negative else ofMagnitude negative magnitude

/-- The number nearest to `coefficient * 10 ^ exponent`. Exponents so far out that the answer is certain are
answered at once. -/
def ofDecimal (negative : Bool) (coefficient : Nat) (exponent : Int) : Binary64 :=
  let digits : Int := (Nat.toDigits 10 coefficient).length
  if coefficient = 0 then ofMagnitude negative 0
  else if 400 < digits + exponent then infinity negative
  else if digits + exponent < -400 then ofMagnitude negative 0
  else if 0 ≤ exponent then ofFraction negative (coefficient * Nat.pow 10 exponent.toNat) 1
  else ofFraction negative coefficient (Nat.pow 10 (-exponent).toNat)

/-- The integer part of a finite number, towards zero. -/
def truncate (x : Binary64) : Int :=
  let magnitude : Nat :=
    if 0 ≤ x.scale then x.significand * Nat.pow 2 x.scale.toNat
    else x.significand / Nat.pow 2 (-x.scale).toNat
  if x.negative then -magnitude else magnitude

/-- A finite number without fractional digits. -/
def isIntegral (x : Binary64) : Bool :=
  x.isFinite && (0 ≤ x.scale || x.significand % Nat.pow 2 (-x.scale).toNat == 0)

/-- The integer that a number is, if it is one. -/
def toInt? (x : Binary64) : Option Int := if x.isIntegral then some x.truncate else none

/-- Equality of numbers: no NaN equals anything, and the two zeros are equal. -/
def same (x y : Binary64) : Bool := !x.isNaN && !y.isNaN && (x.bits == y.bits || (x.isZero && y.isZero))

/-- The sixteen hexadecimal digits of the bits. -/
def hex (x : Binary64) : String :=
  String.ofList ((List.range 16).map fun i => Nat.digitChar (x.bits.toNat / Nat.pow 16 (15 - i) % 16))

example : (ofDecimal false 1 (-1)).hex = "3fb999999999999a" := by decide +kernel
example : (ofDecimal true 5 (-324)).hex = "8000000000000001" := by decide +kernel
example : ofDecimal false 17976931348623159 292 = infinity false := by decide +kernel

end Binary64
end DaemonClient
