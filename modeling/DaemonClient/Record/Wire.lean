import DaemonClient.Record.Check
import DaemonClient.Json.Encoding

/-! Records on the way to the daemon: the wire map, the body and the query. -/

namespace DaemonClient

namespace Shape

def items? : Shape → Option Shape
  | .optional s => s.items?
  | .list s => some s
  | _ => none

def values? : Shape → Option Shape
  | .optional s => s.values?
  | .map s => some s
  | _ => none

def fields? : Shape → Option (List (Slot × Shape))
  | .optional s => s.fields?
  | .record _ fields => some fields
  | _ => none

end Shape

namespace Value

mutual

/-- The wire form of a value in a place of a shape, or of none: records become maps with wire names, without the
fields that hold null; null inside a map stays. A record goes by the fields of the shape, whatever its own kind is,
and by those of its kind where the shape knows of no record. -/
def wireIn (place : Option Shape) : Value → Value
  | record kind _ fs _ => map (wireFields ((place.bind Shape.fields?).getD kind.fields) fs)
  | list xs => list (wireItems (place.bind Shape.items?) xs)
  | tuple xs => tuple (wireItems none xs)
  | map es => map (wireEntries (place.bind Shape.values?) es)
  | v => v

def wireItems (place : Option Shape) : List Value → List Value
  | [] => []
  | x :: xs => wireIn place x :: wireItems place xs

/-- The wire forms of entries; keys stay as they are. -/
def wireEntries (place : Option Shape) : List (Value × Value) → Entries
  | [] => []
  | (k, v) :: es => (k, wireIn place v) :: wireEntries place es

/-- The wire entries of those fields that are declared and do not hold null. -/
def wireFields (declared : List (Slot × Shape)) : List (String × Value) → Entries
  | [] => []
  | (a, v) :: fs =>
    match v, declared.find? fun d => d.1.attr == a with
    | null, _ | _, none => wireFields declared fs
    | _, some (slot, shape) => (text slot.wire, wireIn (some shape) v) :: wireFields declared fs

end

/-- The wire form of a value that stands for itself. -/
def toWire (v : Value) : Value := v.wireIn none

def field? (v : Value) (attr : String) : Option Value :=
  match v with
  | record _ _ fs _ => fs.lookup attr
  | _ => none

end Value

inductive SerializationFault
  | json (fault : EncodingFault)
  | text (fault : EncodingFault)

def SerializationFault.cause : SerializationFault → EncodingFault
  | json f => f
  | text f => f

def SerializationFault.message : SerializationFault → String
  | json f => "Could not serialize to JSON: " ++ f.message
  | text f => "Could not decode text parameter: " ++ f.message

/-- Why a value, given as options, makes no body or no query. -/
inductive OptionsFault
  | absent (typeName attr : String)
  | serialization (fault : SerializationFault)

def OptionsFault.message : OptionsFault → String
  | absent typeName attr => s!"'{typeName}' object has no attribute '{attr}'"
  | serialization fault => fault.message

/-- Name and value of a query parameter. A value that is no text has slipped through an unchecked record. -/
abbrev QueryPair := String × Value

namespace Value

/-- The JSON text of a value, as options use it. -/
def serialize (v : Value) : Except SerializationFault String := v.dump.mapError .json

/-- A text parameter: octets are read, all else is passed on. -/
def serializeText (v : Value) : Except SerializationFault Value := v.asText.mapError .text

def toBody (r : Value) : Except SerializationFault String := r.toWire.serialize

/-- A map of filters as the one query parameter that carries it. -/
def filtersQuery (filters : Value) : Except SerializationFault (List QueryPair) := do
  let s ← filters.serialize
  return [("filters", text s)]

def flagText (v : Value) : String := if v.truthy then "true" else "false"

/-- The octets of the body that options make; only a record makes one. -/
def bodyOctets : Value → Except OptionsFault (List UInt8)
  | r@(record ..) => (Utf8.encode <$> r.toBody).mapError .serialization
  | v => .error (.absent v.typeName "into_body")

def needed (r : Value) (attr : String) : Except OptionsFault Value :=
  match r.field? attr with
  | some v => .ok v
  | none => .error (.absent r.typeName attr)

/-- The query of options: inspection sends its verbosity and scope, listing and pruning their filters, and options
that go into a body send none. Nothing else has a query. -/
def toQuery (r : Value) : Except OptionsFault (List QueryPair) :=
  match r with
  | record .inspectOptions .. => do
    let verbose ← r.needed "verbose"
    let scope ← (← r.needed "scope").serializeText.mapError .serialization
    return [("verbose", text verbose.flagText), ("scope", scope)]
  | record .listOptions .. | record .pruneOptions .. => do
    let filters ← r.needed "filters"
    filters.filtersQuery.mapError .serialization
  | record kind .. => if kind.isOptions then .ok [] else .error (.absent r.typeName "into_query_params")
  | _ => .error (.absent r.typeName "into_query_params")

end Value
end DaemonClient
