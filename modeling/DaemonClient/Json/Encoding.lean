import DaemonClient.Json.Writer
import DaemonClient.Value.Textual

/-! The JSON form of values. A value goes through its textual view first, so a fault of the view is found before any
other. Keys that are no text are written as the text that JSON would write for them. -/

namespace DaemonClient.Value

/-- An integer that may be written. -/
def checkDigits (n : Int) : Except EncodingFault Int :=
  if exceedsDigitLimit n then .error .tooManyDigits else .ok n

def checkFinite (x : Binary64) : Except EncodingFault Binary64 := if x.isFinite then .ok x else .error .notFinite

def memberName : Value → Except EncodingFault String
  | text s => .ok s
  | null => .ok "null"
  | bool true => .ok "true"
  | bool false => .ok "false"
  | int n => do
    let n ← checkDigits n
    return String.ofList (decimalText n)
  | float x => do
    let x ← checkFinite x
    return String.ofList x.text
  | v => .error (.unnamableKey v.typeName)

mutual

/-- The JSON form of a value in its textual view. -/
def toJson : Value → Except EncodingFault Json
  | null => .ok .null
  | bool b => .ok (.bool b)
  | int n => .int <$> checkDigits n
  | float x => .float <$> checkFinite x
  | text s => .ok (.text s)
  | list xs => .array <$> toJsonItems xs
  | tuple xs => .array <$> toJsonItems xs
  | map es => .object <$> toJsonMembers es
  | v => .error (.foreignType v.typeName)

def toJsonItems : List Value → Except EncodingFault (List Json)
  | [] => .ok []
  | x :: xs => do
    let j ← toJson x
    let js ← toJsonItems xs
    return j :: js

def toJsonMembers : List (Value × Value) → Except EncodingFault (List (String × Json))
  | [] => .ok []
  | (k, v) :: es => do
    let name ← memberName k
    let j ← toJson v
    let ms ← toJsonMembers es
    return (name, j) :: ms

end

def encode (v : Value) : Except EncodingFault Json := do
  let w ← v.textual
  w.toJson

/-- The JSON text of a value. -/
def dump (v : Value) : Except EncodingFault String := Json.render <$> v.encode

end DaemonClient.Value
