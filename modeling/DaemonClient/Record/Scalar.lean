import DaemonClient.Record.Problem
import DaemonClient.Text.Utf8

/-! Checking single values: text in a record's form, truth values and integers, each with the spellings it may be
given in. -/

namespace DaemonClient.Check

def textOf (bs : List UInt8) : Check Value :=
  match Utf8.decode bs with
  | .ok s => .ok (.text s)
  | .error _ => fail .illFormedText

/-- A value that is neither text nor octets, for a record that takes both: a problem for each. -/
def neither : Check Value := .error [⟨.notText, [.name "str"]⟩, ⟨.notOctets, [.name "bytes"]⟩]

/-- Text in a form. A view into another's memory is no text in any form. Where text stays as given, a buffer
becomes characters if they read, else fixed octets. -/
def text : TextForm → Value → Check Value
  | .characters, .text s => .ok (.text s)
  | .characters, .octets .view _ => fail .notText
  | .characters, .octets _ bs => textOf bs
  | .characters, _ => fail .notText
  | .octets, .text s => .ok (.octets .fixed (Utf8.encode s))
  | .octets, .octets .view _ => fail .notOctets
  | .octets, .octets _ bs => .ok (.octets .fixed bs)
  | .octets, _ => fail .notOctets
  | .given, .text s => .ok (.text s)
  | .given, .octets .fixed bs => .ok (.octets .fixed bs)
  | .given, .octets .buffer bs =>
    match Utf8.decode bs with
    | .ok s => .ok (.text s)
    | .error _ => .ok (.octets .fixed bs)
  | .given, _ => neither

def flagWords : List (String × Bool) :=
  [("0", false), ("off", false), ("f", false), ("false", false), ("n", false), ("no", false),
    ("1", true), ("on", true), ("t", true), ("true", true), ("y", true), ("yes", true)]

/-- A truth value from a spelling, whatever the case of its ASCII letters. -/
def flagOfText (s : String) : Check Value :=
  match flagWords.lookup (String.ofList (s.toList.map Char.toLower)) with
  | some b => .ok (.bool b)
  | none => fail .unclearFlag

/-- The integer that a float stands for: it has no fraction and its magnitude is below 2^63. -/
def wholeFloat (x : Binary64) : Check Int :=
  if !x.isFinite then fail .notFinite
  else match x.toInt? with
    | some n => if n.natAbs < wordBound then .ok n else fail .oversizedInteger
    | none => fail .fractionalInteger

/-- A truth value from an integer, which is clear for zero and one only. -/
def flagOfInt (n : Int) : Check Value :=
  if n = 0 then .ok (.bool false) else if n = 1 then .ok (.bool true) else fail .unclearFlag

/-- A truth value: itself, a spelling, or the numbers zero and one. A number that is no integer of a word's size is
not even an unclear one. -/
def flag : Value → Check Value
  | .bool b => .ok (.bool b)
  | .text s => flagOfText s
  | .octets .fixed bs =>
    match Utf8.decode bs with
    | .ok s => flagOfText s
    | .error _ => fail .unclearFlag
  | .int n => if isWord n then flagOfInt n else fail .notFlag
  | .float x =>
    match wholeFloat x with
    | .ok n => flagOfInt n
    | .error _ => fail .notFlag
  | _ => fail .notFlag

/-- The blanks that may stand around an integer's text. -/
def isOuterBlank (c : Char) : Bool := DaemonClient.Text.isBlank c || DaemonClient.Text.isWideBlank c

/-- An integer in plain notation: at most a minus, a zero alone or digits that begin with another, and at most
`digitLimit` of them. That there are too many is seen before what follows them. -/
def plainInteger (cs : List Char) : Except ProblemKind Int :=
  let negative := cs.head? == some '-'
  let body := if negative then cs.drop 1 else cs
  let digits := body.takeWhile isAsciiDigit
  let rest := body.dropWhile isAsciiDigit
  if digits.head? == some '0' then if body == ['0'] then .ok 0 else .error .unclearInteger
  else if digitLimit < digits.length then .error .oversizedInteger
  else if digits.isEmpty || !rest.isEmpty then .error .unclearInteger
  else .ok (signed negative (asciiValue digits))

/-- The text after leading zeros, between which underscores may stand in any number. A last zero stays, alone or
before a point; a minus may follow the zeros, so `0-5` is `-5`. -/
def withoutLeadingZeros (cs : List Char) : Option (List Char) :=
  let isFiller (c : Char) : Bool := c == '0' || c == '_'
  let canFollow (c : Char) : Bool := ('1' ≤ c && c ≤ '9') || c == '-'
  match cs with
  | [] => none
  | c :: _ =>
    if canFollow c then some cs
    else if c != '0' then none
    else
      let filler := cs.takeWhile isFiller
      match cs.dropWhile isFiller with
      | [] => some (filler.drop (filler.length - 1))
      | '.' :: rest => some (filler.drop (filler.length - 1) ++ '.' :: rest)
      | d :: rest => if canFollow d then some (d :: rest) else none

/-- The text before a fraction of zeros, which has at least one. -/
def withoutZeroFraction (cs : List Char) : List Char :=
  match cs.dropWhile (· != '.') with
  | [] => cs
  | _ :: zeros => if !zeros.isEmpty && zeros.all (· == '0') then cs.takeWhile (· != '.') else cs

/-- The text without its underscores, if each of them stands between two other characters. -/
def withoutUnderscores (cs : List Char) : List Char :=
  if cs.head? == some '_' || cs.getLast? == some '_' || (cs.zip cs.tail).contains ('_', '_') then cs
  else cs.filter (· != '_')

/-- The plain notation of a tolerant one: without blanks around it, a plus, leading zeros, a fraction of zeros and
underscores between digits. -/
def tidied (cs : List Char) : Option (List Char) :=
  let unsigned (body : List Char) : Option (List Char) :=
    (withoutLeadingZeros body).map fun ds => withoutUnderscores (withoutZeroFraction ds)
  match trimBoth isOuterBlank cs with
  | '-' :: body => (unsigned body).map ('-' :: ·)
  | '+' :: body => if body.head? == some '-' then none else unsigned body
  | body => unsigned body

/-- An integer from its text in plain notation or, if it is in none, in tolerant notation. Too many digits are a
problem of their own in plain notation only. -/
def integerOfText (cs : List Char) : Except ProblemKind Int :=
  match plainInteger cs with
  | .error .unclearInteger =>
    match (tidied cs).map plainInteger with
    | some (.ok n) => .ok n
    | _ => .error .unclearInteger
  | outcome => outcome

def countOfText (s : String) : Check Value :=
  match integerOfText s.toList with
  | .ok n => .ok (.int n)
  | .error kind => fail kind

/-- An integer: itself, a truth value, a text, or a float without fraction and below 2^63. -/
def count : Value → Check Value
  | .int n => .ok (.int n)
  | .bool b => .ok (.int (if b then 1 else 0))
  | .text s => countOfText s
  | .octets .fixed bs =>
    match Utf8.decode bs with
    | .ok s => countOfText s
    | .error _ => fail .unclearInteger
  | .float x => (wholeFloat x).map .int
  | _ => fail .notInteger

end DaemonClient.Check
