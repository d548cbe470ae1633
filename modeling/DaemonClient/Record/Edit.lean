import DaemonClient.Record.Part
import DaemonClient.Value.Literal

/-! Editing values in place: a path leads through the fields of records, the keys of maps and the indexes of rows to
the place that takes a new value. Nothing is checked but that the place exists and can hold the value. Besides its
fields a record takes notes under names that begin with an underscore, and answers to a few names of its own. -/

namespace DaemonClient

/-- What has its parts in a row, each under its index. -/
inductive Row
  | list
  | tuple
  | text
  | octets (holder : OctetHolder)

inductive EditFault
  | notName (typeName : String)
  | absentField (kind : RecordKind) (form : TextForm) (attr : String)
  | unknownField (kind : RecordKind) (form : TextForm) (attr : String)
  /-- A name under which a record tells what it is worked out from its fields. -/
  | derived (kind : RecordKind) (form : TextForm) (attr : String)
  | noFields (typeName : String)
  | noType (typeName : String)
  | absentKey (key : Value)
  | unhashableKey (typeName : String)
  | absentIndex (row : Row)
  | absentPlace
  | notIndex (row : Row) (typeName : String)
  | wideIndex
  | noIndex
  /-- A view, which has one dimension, asked with several indexes. -/
  | manyIndexes (count : Nat)
  | noParts (typeName : String)
  | fixedParts (typeName : String)
  | fixedOctets
  | notOctet (typeName : String)
  | wideOctet

def Row.tooShort : Row → String
  | list => "list index out of range"
  | tuple => "tuple index out of range"
  | text => "string index out of range"
  | octets .fixed => "index out of range"
  | octets .buffer => "bytearray index out of range"
  | octets .view => "index out of bounds on dimension 1"

/-- The words for a value of a type in place of an index. -/
def Row.noIndexBy (typeName : String) : Row → String
  | list => "list indices must be integers or slices, not " ++ typeName
  | tuple => "tuple indices must be integers or slices, not " ++ typeName
  | text => s!"string indices must be integers, not '{typeName}'"
  | octets .fixed => "byte indices must be integers or slices, not " ++ typeName
  | octets .buffer => "bytearray indices must be integers or slices, not " ++ typeName
  | octets .view => "memoryview: invalid slice key"

def EditFault.message : EditFault → String
  | notName typeName => s!"attribute name must be string, not '{typeName}'"
  | absentField kind form attr => s!"'{kind.nameWith form}' object has no attribute {Text.quoted attr}"
  | unknownField kind form attr => s!"\"{kind.nameWith form}\" object has no field \"{attr}\""
  | derived kind form attr => s!"property {Text.quoted attr} of {Text.quoted (kind.nameWith form)} object has no setter"
  | noFields typeName => s!"__dict__ must be set to a dictionary, not a '{typeName}'"
  | noType typeName => s!"__class__ must be set to a class, not '{typeName}' object"
  | absentKey key => key.literal
  | unhashableKey typeName => s!"unhashable type: '{typeName}'"
  | absentIndex row => row.tooShort
  | absentPlace => "list assignment index out of range"
  | notIndex row typeName => row.noIndexBy typeName
  | wideIndex => "cannot fit 'int' into an index-sized integer"
  | noIndex => "sub-views are not implemented"
  | manyIndexes count => s!"cannot index 1-dimension view with {count}-element tuple"
  | noParts typeName => s!"'{typeName}' object is not subscriptable"
  | fixedParts typeName => s!"'{typeName}' object does not support item assignment"
  | fixedOctets => "cannot modify read-only memory"
  | notOctet typeName => s!"'{typeName}' object cannot be interpreted as an integer"
  | wideOctet => "byte must be in range(0, 256)"

abbrev Edited (α : Type) := Except EditFault α

namespace Value

/-- The position in a row of some length that an index means: negative indexes count from the end. -/
def position? (length : Nat) (i : Int) : Option Nat :=
  let p := if i < 0 then i + length else i
  if 0 ≤ p ∧ p < length then some p.toNat else none

/-- The index into a row that a step of a path is. A view takes an index alone in a tuple too. -/
def index (row : Row) (step : Value) : Edited Int :=
  match row, step with
  | .octets .view, tuple xs =>
    if xs.any fun x => x.asIndex?.isNone then .error (.notIndex row step.typeName)
    else match xs with
      | [] => .error .noIndex
      | [x] => word (x.asIndex?.getD 0)
      | _ => .error (.manyIndexes xs.length)
  | _, _ =>
    match step.asIndex? with
    | some i => word i
    | none => .error (.notIndex row step.typeName)
where
  word (i : Int) : Edited Int := if isWord i then .ok i else .error .wideIndex

/-- The part of a row that a step of a path leads to. -/
def item {α : Type} (row : Row) (xs : List α) (step : Value) : Edited α := do
  let i ← index row step
  match (position? xs.length i).bind (xs[·]?) with
  | some x => return x
  | none => throw (.absentIndex row)

/-- The name that a step of a path is, for the field of a record. -/
def fieldName : Value → Edited String
  | text s => .ok s
  | step => .error (.notName step.typeName)

def part (v step : Value) : Edited Value :=
  match v with
  | record kind form fs ns => do
    let attr ← step.fieldName
    match Record.part? kind fs ns attr with
    | some part => return part
    | none => throw (.absentField kind form attr)
  | map es =>
    match step.unhashable? with
    | some t => .error (.unhashableKey t)
    | none => match Entries.get? es step with
      | some part => .ok part
      | none => .error (.absentKey step)
  | list xs => item .list xs step
  | tuple xs => item .tuple xs step
  | text s => (fun c => text (String.singleton c)) <$> item .text s.toList step
  | octets holder bs => (fun b => int b.toNat) <$> item (.octets holder) bs step
  | v => .error (.noParts v.typeName)

def octet (v : Value) : Edited UInt8 :=
  match v.asIndex? with
  | none => .error (.notOctet v.typeName)
  | some n => if 0 ≤ n ∧ n < 256 then .ok (UInt8.ofNat n.toNat) else .error .wideOctet

/-- The record with a new part under a name: a field, any other name that begins with an underscore, which makes a
note, or all it holds. -/
def putRecordPart (kind : RecordKind) (form : TextForm) (fields notes : Named) (attr : String) (new : Value) :
    Edited Value :=
  if kind.declares attr then .ok (record kind form (fields.put attr new) notes)
  else if (Record.derived? attr).isSome then .error (.derived kind form attr)
  else if attr == Record.holdingsName then
    match new with
    | map es => .ok (Record.holding kind form es)
    | _ => .error (.noFields new.typeName)
  else if attr == Record.typeAttr then .error (.noType new.typeName)
  else if attr.startsWith "_" then .ok (record kind form fields (notes.put attr new))
  else .error (.unknownField kind form attr)

/-- The value with a new part under one step of a path. -/
def putPart (v step new : Value) : Edited Value :=
  match v with
  | record kind form fs ns => do putRecordPart kind form fs ns (← step.fieldName) new
  | map es =>
    match step.unhashable? with
    | some t => .error (.unhashableKey t)
    | none => .ok (map (Entries.insert es step new))
  | list xs => do
    match position? xs.length (← index .list step) with
    | some p => return list (xs.set p new)
    | none => throw .absentPlace
  | octets .buffer bs => do
    let i ← index (.octets .buffer) step
    let b ← new.octet
    match position? bs.length i with
    | some p => return octets .buffer (bs.set p b)
    | none => throw (.absentIndex (.octets .buffer))
  | octets .view _ => .error .fixedOctets
  | tuple _ | text _ | octets .fixed _ =>
    -- an index is looked at before it shows that there is nothing to put it to
    match step.asIndex? with
    | some i => if isWord i then .error (.fixedParts v.typeName) else .error .wideIndex
    | none => .error (.fixedParts v.typeName)
  | v => .error (.fixedParts v.typeName)

/-- The value with a part that a path has gone through in its new state. A tuple cannot be given a part, but the parts
of its parts can be replaced; what all records of a kind share is no part of the record. -/
def replacePart (v step new : Value) : Edited Value :=
  match v, step with
  | tuple xs, _ =>
    match step.asIndex?.bind (position? xs.length) with
    | some p => .ok (tuple (xs.set p new))
    | none => .ok v
  | record kind form fs ns, text attr =>
    if attr == Record.holdingsName then putRecordPart kind form fs ns attr new
    else if (fs.lookup attr).isSome then .ok (record kind form (Named.put fs attr new) ns)
    else if (ns.lookup attr).isSome then .ok (record kind form fs (Named.put ns attr new))
    else .ok v
  | _, _ => v.putPart step new

/-- The value with a new part at the end of a path, which has at least one step. -/
def edit (v : Value) (path : List Value) (new : Value) : Edited Value :=
  match path with
  | [] => .error (.absentIndex .list)
  | [step] => v.putPart step new
  | step :: rest => do
    let inner ← v.part step
    let inner' ← inner.edit rest new
    v.replacePart step inner'

end Value
end DaemonClient
