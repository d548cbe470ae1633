import DaemonClient.Number.Binary64

/-! Decimal text of numbers: the digits of integers, and the shortest digits that read back as the same binary
number, laid out by one record of decisions. -/

namespace DaemonClient

/-- The decimal digits of a natural, most significant first. -/
def decimalDigits (n : Nat) : List Char := Nat.toDigits 10 n

def decimalText (n : Int) : List Char :=
  if n < 0 then '-' :: decimalDigits n.natAbs else decimalDigits n.natAbs

/-- The most digits an integer may have when it is turned into text or read from text. -/
def digitLimit : Nat := 4300

/-- An integer with more digits than may be turned into text. -/
def exceedsDigitLimit (n : Int) : Bool := Nat.pow 10 digitLimit ≤ n.natAbs

/-- Two to the sixty-third, the bound of signed words. -/
def wordBound : Nat := Nat.pow 2 63

def isWord (n : Int) : Bool := -(wordBound : Int) ≤ n && n < wordBound

namespace Binary64

/-- Digits and a decimal point: the number `0.d₁d₂… × 10 ^ point`. -/
structure Digits where
  digits : List Char
  point : Int
  deriving DecidableEq, Repr

/-- The reals that round to a positive finite number, in quarters of its unit: least, the number, greatest. The
gap below a power of two is half as wide as the gap above. -/
structure Interval where
  least : Nat
  exact : Nat
  greatest : Nat
  closed : Bool

/-- The rounding interval of a positive finite number. -/
def interval (x : Binary64) : Interval :=
  let m := x.significand
  let narrow := x.fractionField == 0 && 1 < x.exponentField
  ⟨4 * m - (if narrow then 1 else 2), 4 * m, 4 * m + 2, m % 2 == 0⟩

/-- The candidate `c` of the decimal grid with step `stepNum / stepDen`, tested against an interval measured in
units of `unitNum / unitDen`. -/
def Interval.holds (i : Interval) (c : Nat) (stepNum stepDen unitNum unitDen : Nat) : Bool :=
  let value := c * stepNum * unitDen
  let least := i.least * unitNum * stepDen
  let greatest := i.greatest * unitNum * stepDen
  if i.closed then least ≤ value && value ≤ greatest else least < value && value < greatest

/-- The neighbour of a positive fraction on a grid that lies in the interval: of two the nearer, of two equally
near the even one. -/
def Interval.neighbour? (i : Interval) (stepNum stepDen unitNum unitDen : Nat) : Option Nat :=
  let num := i.exact * unitNum * stepDen
  let den := unitDen * stepNum
  let lower := num / den
  let twice := 2 * (num % den)
  let upperNearer := den < twice || (den == twice && lower % 2 == 1)
  let fits := fun c => i.holds c stepNum stepDen unitNum unitDen
  let order := if upperNearer then [lower + 1, lower] else [lower, lower + 1]
  order.find? fits

/-- Number of digits before the decimal point of `num / den`, not positive for a fraction below one tenth. -/
def pointOf (num den : Nat) : Int :=
  let rough : Int := ((decimalDigits num).length : Int) - (decimalDigits den).length
  let reaches := if 0 ≤ rough then den * Nat.pow 10 rough.toNat ≤ num else den ≤ num * Nat.pow 10 (-rough).toNat
  if reaches then rough + 1 else rough

/-- Digits without the zeros at their end. -/
def trimZeros (ds : List Char) : List Char := (ds.reverse.dropWhile (· == '0')).reverse

/-- The shortest digits that read back as a positive finite number: the coarsest decimal grid with a point in the
rounding interval, and on it the neighbour of the number. Seventeen digits always suffice. -/
def shortest (x : Binary64) : Digits :=
  let i := x.interval
  let unit := x.scale - 2
  let unitNum := Nat.pow 2 unit.toNat
  let unitDen := Nat.pow 2 (-unit).toNat
  let point := pointOf (i.exact * unitNum) unitDen
  let hit := (List.range 17).findSome? fun (k : Nat) =>
    let step : Int := point - ((k : Int) + 1)
    (i.neighbour? (Nat.pow 10 step.toNat) (Nat.pow 10 (-step).toNat) unitNum unitDen).map fun c => (c, step)
  match hit with
  | some (c, step) =>
    let ds := decimalDigits c
    ⟨trimZeros ds, step + ds.length⟩
  | none => ⟨['0'], 1⟩

/-- How a binary number is laid out: the least and greatest point written positionally, the exponent mark, the
least number of exponent digits, and the texts of the values that have no digits. -/
structure Layout where
  leastPoint : Int
  greatestPoint : Int
  mark : Char
  exponentWidth : Nat
  notANumber : String
  infinite : String

/-- Numbers from 0.0001 up to 10^16 are written positionally and keep a fractional digit; an exponent has a sign and
at least two digits. -/
def layout : Layout := ⟨-3, 16, 'e', 2, "nan", "inf"⟩

def Layout.write (l : Layout) (d : Digits) : List Char :=
  let n : Int := d.digits.length
  if l.leastPoint ≤ d.point ∧ d.point ≤ l.greatestPoint then
    if d.point ≤ 0 then '0' :: '.' :: (List.replicate (-d.point).toNat '0' ++ d.digits)
    else if n ≤ d.point then d.digits ++ List.replicate (d.point - n).toNat '0' ++ ['.', '0']
    else d.digits.take d.point.toNat ++ '.' :: d.digits.drop d.point.toNat
  else
    let e := d.point - 1
    let es := decimalDigits e.natAbs
    let tail := match d.digits.tail with
      | [] => []
      | ds => '.' :: ds
    d.digits.take 1 ++ tail ++ l.mark :: (if e < 0 then '-' else '+') ::
      (List.replicate (l.exponentWidth - es.length) '0' ++ es)

/-- The shortest text of a number under a layout. -/
def Layout.text (l : Layout) (x : Binary64) : List Char :=
  let sign := if x.negative then ['-'] else []
  if x.isNaN then l.notANumber.toList
  else if x.isInfinite then sign ++ l.infinite.toList
  else if x.isZero then sign ++ l.write ⟨['0'], 1⟩
  else sign ++ l.write x.shortest

def text (x : Binary64) : List Char := layout.text x

example : (ofDecimal false 1 16).text = "1e+16".toList := by decide +kernel
example : (ofDecimal true 1 (-4)).text = "-0.0001".toList := by decide +kernel
example : (ofDecimal false 12 (-8)).text = "1.2e-07".toList := by decide +kernel
example : (ofDecimal false 5 (-324)).text = "5e-324".toList := by decide +kernel
example : (ofDecimal false 123 1).text = "1230.0".toList := by decide +kernel

end Binary64
end DaemonClient
