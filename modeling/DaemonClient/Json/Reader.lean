import DaemonClient.Json.Basic
import DaemonClient.Machine

/-! Strict reading of JSON text (RFC 8259), with `NaN`, `Infinity` and `-Infinity` besides. Numbers with a point or an
exponent are floats, all others integers of at most `digitLimit` digits. All members of an object are kept, also those
with one name. A reader goes from left to right and stops at the first fault. There are two readers, which differ in
the depth that they follow and in what they tolerate: the one of records (`parseBody`) and the one of errors and
settings (`parseText`). -/

namespace DaemonClient.Json

inductive Container
  | array
  | object
  deriving DecidableEq, Repr

/-- Why a text is no document that a reader can read. -/
inductive ReadFault
  | malformed
  /-- A container inside more others than the reader follows. -/
  | tooDeep (container : Container)
  deriving DecidableEq, Repr

def Container.tooDeepText (c : Container) : String :=
  let name := match c with
    | .array => "array"
    | .object => "object"
  s!"maximum recursion depth exceeded while decoding a JSON {name} from a unicode string"

/-- What is read where only a malformed text can keep from it. -/
def orMalformed {α : Type} (r : Option α) : Except ReadFault α := r.elim (.error .malformed) .ok

def isBlank (c : Char) : Bool := c == ' ' || c == '\t' || c == '\n' || c == '\r'

def skipBlanks (cs : List Char) : List Char := cs.dropWhile isBlank

/-- The rest after an expected beginning. -/
def expect : List Char → List Char → Option (List Char)
  | [], cs => some cs
  | e :: es, c :: cs => if e == c then expect es cs else none
  | _ :: _, [] => none

def readUnit : List Char → Option (Nat × List Char)
  | a :: b :: c :: d :: rest => do
    let w ← hexValue? a
    let x ← hexValue? b
    let y ← hexValue? c
    let z ← hexValue? d
    return (w * 4096 + x * 256 + y * 16 + z, rest)
  | _ => none

/-- The second unit of a pair, where its escape begins the text. -/
def readLowEscape : List Char → Option (Nat × List Char)
  | '\\' :: 'u' :: rest => (readUnit rest).filter fun r => 0xDC00 ≤ r.1 && r.1 < 0xE000
  | _ => none

/-- The character of a UTF-16 unit at the beginning of the text, with its second unit if it needs one and has it. A
surrogate without its other half is no character: it is read as its stand-in, or not at all where there is none. -/
def readUnitEscape (standIn? : Option (Nat → Char)) (cs : List Char) : Option (Char × List Char) := do
  let (unit, rest) ← readUnit cs
  if unit < 0xD800 || 0xE000 ≤ unit then return (Char.ofNat unit, rest)
  else match if unit < 0xDC00 then readLowEscape rest else none with
    | some (low, rest') => return (Char.ofNat (0x10000 + (unit - 0xD800) * 0x400 + (low - 0xDC00)), rest')
    | none => standIn?.map fun standIn => (standIn unit, rest)

/-- The character of an escape, after its backslash. -/
def readEscape (standIn? : Option (Nat → Char)) : List Char → Option (Char × List Char)
  | '"' :: rest => some ('"', rest)
  | '\\' :: rest => some ('\\', rest)
  | '/' :: rest => some ('/', rest)
  | 'b' :: rest => some ('\x08', rest)
  | 'f' :: rest => some ('\x0C', rest)
  | 'n' :: rest => some ('\n', rest)
  | 'r' :: rest => some ('\r', rest)
  | 't' :: rest => some ('\t', rest)
  | 'u' :: rest => readUnitEscape standIn? rest
  | _ => none

/-- The characters of a string up to its closing quote, and the rest after it. Fuel bounds the number of
characters. -/
def readChars (standIn? : Option (Nat → Char)) : Nat → List Char → Option (List Char × List Char)
  | 0, _ => none
  | _ + 1, [] => none
  | fuel + 1, c :: rest =>
    if c == '"' then some ([], rest)
    else if c == '\\' then do
      let (d, rest') ← readEscape standIn? rest
      let (ds, rest'') ← readChars standIn? fuel rest'
      return (d :: ds, rest'')
    else if c < ' ' then none
    else do
      let (ds, rest') ← readChars standIn? fuel rest
      return (c :: ds, rest')

/-- A string after its opening quote. -/
def readText (standIn? : Option (Nat → Char)) (cs : List Char) : Option (String × List Char) :=
  (readChars standIn? (cs.length + 1) cs).map fun r => (String.ofList r.1, r.2)

/-- The digits of a number's integer part: a zero stands alone. -/
def readWhole : List Char → Option (List Char × List Char)
  | '0' :: rest => some (['0'], rest)
  | c :: rest =>
    if isAsciiDigit c then some (c :: rest.takeWhile isAsciiDigit, rest.dropWhile isAsciiDigit) else none
  | [] => none

def readDigits (cs : List Char) : Option (List Char × List Char) :=
  let ds := cs.takeWhile isAsciiDigit
  if ds.isEmpty then none else some (ds, cs.dropWhile isAsciiDigit)

def readFraction : List Char → Option (Option (List Char) × List Char)
  | '.' :: rest => (readDigits rest).map fun r => (some r.1, r.2)
  | cs => some (none, cs)

def readExponent : List Char → Option (Option Int × List Char)
  | c :: rest =>
    if c == 'e' || c == 'E' then
      let (down, digits) := splitSign rest
      (readDigits digits).map fun r => (some (signed down (asciiValue r.1)), r.2)
    else some (none, c :: rest)
  | [] => some (none, [])

/-- What a reader takes beyond what all readers take. -/
structure Tolerance where
  /-- Whether the integer part of a float may have more than `digitLimit` digits. -/
  longFloats : Bool
  /-- What a surrogate without its other half is read as, for a reader that does not refuse it. -/
  standIn? : Option (Nat → Char)

/-- A reader of long floats, or of none, that is strict otherwise. -/
instance : Coe Bool Tolerance := ⟨fun longFloats => ⟨longFloats, none⟩⟩

/-- What a reader admits. -/
structure Limits where
  /-- How many arrays and objects may be open at once. -/
  depth : Nat
  tolerance : Tolerance

/-- A number after its sign. -/
def readMagnitude (longFloats negative : Bool) (cs : List Char) : Option (Json × List Char) := do
  let (whole, rest) ← readWhole cs
  let (fraction, rest') ← readFraction rest
  let (exponent, rest'') ← readExponent rest'
  let isFloat := fraction.isSome || exponent.isSome
  if digitLimit < whole.length && !(isFloat && longFloats) then none
  else if !isFloat then return (int (signed negative (asciiValue whole)), rest'')
  else return (float (decimalFraction negative whole (fraction.getD []) (exponent.getD 0)), rest'')

/-- A literal word and the document it stands for. -/
def words : List (List Char × Json) :=
  [("null".toList, null), ("true".toList, bool true), ("false".toList, bool false), ("NaN".toList, float .nan),
    ("Infinity".toList, float (.infinity false)), ("-Infinity".toList, float (.infinity true))]

/-- A document without parts: a word or a number. -/
def readScalar (longFloats : Bool) (cs : List Char) : Option (Json × List Char) :=
  match words.findSome? fun w => (expect w.1 cs).map fun rest => (w.2, rest) with
  | some r => some r
  | none =>
    match cs with
    | '-' :: rest => readMagnitude longFloats true rest
    | _ => readMagnitude longFloats false cs

mutual

/-- A document at the beginning of the text, after blanks. Fuel bounds the number of steps, depth how many more arrays
and objects may be opened. -/
def readDocument (tolerance : Tolerance) : Nat → Nat → List Char → Except ReadFault (Json × List Char)
  | 0, _, _ => .error .malformed
  | fuel + 1, depth, cs =>
    match skipBlanks cs with
    | '"' :: rest => orMalformed ((readText tolerance.standIn? rest).map fun r => (text r.1, r.2))
    | '[' :: rest =>
      match depth, skipBlanks rest with
      | 0, _ => .error (.tooDeep .array)
      | _ + 1, ']' :: rest' => .ok (array [], rest')
      | depth + 1, _ => (readItems tolerance fuel depth rest).map fun r => (array r.1, r.2)
    | '\x7b' :: rest =>
      match depth, skipBlanks rest with
      | 0, _ => .error (.tooDeep .object)
      | _ + 1, '\x7d' :: rest' => .ok (object [], rest')
      | depth + 1, _ => (readMembers tolerance fuel depth rest).map fun r => (object r.1, r.2)
    | rest => orMalformed (readScalar tolerance.longFloats rest)

/-- The items of an array up to its closing bracket. -/
def readItems (tolerance : Tolerance) : Nat → Nat → List Char → Except ReadFault (List Json × List Char)
  | 0, _, _ => .error .malformed
  | fuel + 1, depth, cs => do
    let (j, rest) ← readDocument tolerance fuel depth cs
    match skipBlanks rest with
    | ']' :: rest' => return ([j], rest')
    | ',' :: rest' =>
      let (js, rest'') ← readItems tolerance fuel depth rest'
      return (j :: js, rest'')
    | _ => throw .malformed

/-- The members of an object up to its closing brace. -/
def readMembers (tolerance : Tolerance) : Nat → Nat → List Char → Except ReadFault (List (String × Json) × List Char)
  | 0, _, _ => .error .malformed
  | fuel + 1, depth, cs =>
    match skipBlanks cs with
    | '"' :: rest => do
      let (k, rest) ← orMalformed (readText tolerance.standIn? rest)
      match skipBlanks rest with
      | ':' :: rest => do
        let (j, rest) ← readDocument tolerance fuel depth rest
        match skipBlanks rest with
        | '\x7d' :: rest => return ([(k, j)], rest)
        | ',' :: rest =>
          let (ms, rest) ← readMembers tolerance fuel depth rest
          return ((k, j) :: ms, rest)
        | _ => throw .malformed
      | _ => throw .malformed
    | _ => throw .malformed

end

/-- The document of a text that holds one document and blanks only, within limits. An array that opens takes two steps
and a character, so twice the length of the text is fuel enough, also where the arrays are not closed. -/
def parse (limits : Limits) (cs : List Char) : Except ReadFault Json := do
  let (j, rest) ← readDocument limits.tolerance (2 * cs.length + 1) limits.depth cs
  if (skipBlanks rest).isEmpty then return j else throw .malformed

section
variable [Machine]

/-- What the reader of errors and settings admits. -/
def textLimits : Limits := ⟨Machine.textDepth, ⟨true, some Machine.standIn⟩⟩

/-- The document of the text of an error or of settings, however long its floats are, also with halves of UTF-16
pairs in its strings. -/
def parseText (s : String) : Except ReadFault Json := parse textLimits s.toList

end

/-- How many arrays and objects may be open at once in a document that becomes a record. -/
def bodyDepth : Nat := 200

/-- What the reader of records admits. -/
def bodyLimits : Limits := ⟨bodyDepth, false⟩

def parseBody (s : String) : Except ReadFault Json := parse bodyLimits s.toList

end DaemonClient.Json
