import DaemonClient.Value.Literal
import DaemonClient.Text.Utf8

/-! The textual view of a value: octets read as UTF-8 text, in keys as in values, and tuples turned into lists. Two
keys of one map that read as the same text are refused, so no entry gets lost. -/

namespace DaemonClient

/-- Why a value has no textual view or no JSON form. -/
inductive EncodingFault
  | undecodable (fault : Utf8.Fault)
  | duplicateKey (key : Value)
  | unhashableKey (typeName : String)
  | unnamableKey (typeName : String)
  | notFinite
  | tooManyDigits
  | foreignType (typeName : String)

def EncodingFault.message : EncodingFault → String
  | undecodable fault => fault.message
  | duplicateKey key => s!"Duplicate key after decoding: {key.literal}"
  | unhashableKey typeName => s!"unhashable type: '{typeName}'"
  | unnamableKey typeName => s!"keys must be str, int, float, bool or None, not {typeName}"
  | notFinite => "Out of range float values are not JSON compliant"
  | tooManyDigits =>
    s!"Exceeds the limit ({digitLimit} digits) for integer string conversion; " ++
      "use sys.set_int_max_str_digits() to increase the limit"
  | foreignType typeName => s!"Object of type {typeName} is not JSON serializable"

def decodeText (bs : List UInt8) : Except EncodingFault String := (Utf8.decode bs).mapError .undecodable

namespace Value

/-- Octets read as text; any other value as it is. -/
def asText : Value → Except EncodingFault Value
  | octets _ bs => text <$> decodeText bs
  | v => .ok v

/-- A value inside a text, if it can be shown. -/
def told (v : Value) : Except EncodingFault String := if v.hasLiteral then .ok v.shown else .error .tooManyDigits

/-- A key may follow the entries already done if it can be a key at all and equals none of theirs. -/
def newKey (done : Entries) (k : Value) : Except EncodingFault Unit :=
  match k.unhashable? with
  | some typeName => .error (.unhashableKey typeName)
  | none => if (done.get? k).isSome then .error (.duplicateKey k) else .ok ()

mutual

/-- The textual view. -/
def textual : Value → Except EncodingFault Value
  | map es => map <$> textualEntries [] es
  | list xs => list <$> textualItems xs
  | tuple xs => list <$> textualItems xs
  | octets _ bs => text <$> decodeText bs
  | v => .ok v

def textualItems : List Value → Except EncodingFault (List Value)
  | [] => .ok []
  | x :: xs => do
    let y ← textual x
    let ys ← textualItems xs
    return y :: ys

/-- The textual views of entries, after those already done. A key is settled before its value is looked at. -/
def textualEntries (done : Entries) : List (Value × Value) → Except EncodingFault Entries
  | [] => .ok done
  | (k, v) :: es => do
    let k' ← textual k
    newKey done k'
    let v' ← textual v
    textualEntries (done ++ [(k', v')]) es

end

end Value
end DaemonClient
