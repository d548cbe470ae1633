import DaemonClient.Number.Decimal
import DaemonClient.Text.Digit

/-! Reading numbers from text: the tolerant integer text of settings and of message framing, and decimal fractions
with an exponent. -/

namespace DaemonClient

/-- The value of decimal digits of any script, most significant first. -/
def digitsValue : List Nat → Nat := List.foldl (fun n d => 10 * n + d) 0

/-- Reads a run of digits in which single underscores may stand between digits. The first argument tells whether
the character before was a digit. -/
def underscored (digit : Char → Option Nat) : Bool → List Char → Option (List Nat)
  | afterDigit, [] => if afterDigit then some [] else none
  | afterDigit, c :: rest =>
    if c == '_' then if afterDigit then underscored digit false rest else none
    else match digit c with
      | some d => (d :: ·) <$> underscored digit true rest
      | none => none

/-- One optional sign: whether it is a minus, and the rest. -/
def splitSign : List Char → Bool × List Char
  | '-' :: rest => (true, rest)
  | '+' :: rest => (false, rest)
  | cs => (false, cs)

def signed (negative : Bool) (n : Nat) : Int := if negative then -(n : Int) else n

/-- Text without the characters of a class at either end. -/
def trimBoth (drop : Char → Bool) (cs : List Char) : List Char :=
  ((cs.dropWhile drop).reverse.dropWhile drop).reverse

/-- The tolerant integer text: blanks around it, one sign, decimal digits of any script with single underscores
between them, at most `digitLimit` digits. -/
def readInteger (cs : List Char) : Option Int :=
  let (negative, body) := splitSign (trimBoth (fun c => isBlankOrWide c) cs)
  match underscored Text.digitValue? false body with
  | some ds => if digitLimit < ds.length then none else some (signed negative (digitsValue ds))
  | none => none
where
  isBlankOrWide (c : Char) : Bool := Text.isBlank c || Text.isWideBlank c

def hexValue? (c : Char) : Option Nat :=
  if '0' ≤ c && c ≤ '9' then some (c.toNat - '0'.toNat)
  else if 'a' ≤ c && c ≤ 'f' then some (c.toNat - 'a'.toNat + 10)
  else if 'A' ≤ c && c ≤ 'F' then some (c.toNat - 'A'.toNat + 10)
  else none

/-- The tolerant hexadecimal integer text: blanks around it, one sign, an optional `0x`, digits with single
underscores between them. -/
def readHexInteger (cs : List Char) : Option Int :=
  let (negative, body) := splitSign (trimBoth Text.isBlank cs)
  let digits := match body with
    | '0' :: x :: '_' :: rest => if x == 'x' || x == 'X' then rest else body
    | '0' :: x :: rest => if x == 'x' || x == 'X' then rest else body
    | _ => body
  (underscored hexValue? false digits).map fun ds => signed negative (ds.foldl (fun n d => 16 * n + d) 0)

def isAsciiDigit (c : Char) : Bool := '0' ≤ c && c ≤ '9'

def asciiValue (cs : List Char) : Nat := digitsValue (cs.map fun c => c.toNat - '0'.toNat)

/-- A decimal fraction: digits before and after the point and an exponent. -/
def decimalFraction (negative : Bool) (whole fraction : List Char) (exponent : Int) : Binary64 :=
  Binary64.ofDecimal negative (asciiValue (whole ++ fraction)) (exponent - fraction.length)

/-- Reads a number in ordinary notation: a sign, digits with a point somewhere, an exponent, or one of the words
for the values without digits. -/
def Binary64.ofText? (cs : List Char) : Option Binary64 :=
  let (negative, body) := splitSign cs
  if body == "nan".toList then some nan
  else if body == "inf".toList || body == "infinity".toList then some (infinity negative)
  else
    let whole := body.takeWhile isAsciiDigit
    let afterWhole := body.dropWhile isAsciiDigit
    let (fraction, afterFraction) := match afterWhole with
      | '.' :: rest => (rest.takeWhile isAsciiDigit, rest.dropWhile isAsciiDigit)
      | rest => ([], rest)
    if whole.isEmpty && fraction.isEmpty then none
    else match afterFraction with
      | [] => some (decimalFraction negative whole fraction 0)
      | e :: rest =>
        let (down, digits) := splitSign rest
        if (e == 'e' || e == 'E') && !digits.isEmpty && digits.all isAsciiDigit then
          some (decimalFraction negative whole fraction (signed down (asciiValue digits)))
        else none

example : readInteger " 30 ".toList = some 30 := by decide +kernel
example : readInteger "1_0".toList = some 10 := by decide +kernel
example : readInteger "1__0".toList = none := by decide +kernel
example : readInteger "-".toList = none := by decide +kernel
example : readHexInteger "0x1F".toList = some 31 := by decide +kernel

end DaemonClient
