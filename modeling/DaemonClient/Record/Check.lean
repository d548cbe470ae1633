import DaemonClient.Record.Scalar
import DaemonClient.Record.Shape
import DaemonClient.Json.Reader

/-! Making records from data. Fields are looked up by wire name first and by attribute name second, all problems are
collected in the order of the fields, and the record holds its fields in that order. -/

namespace DaemonClient

/-- The name a field is given under and what is given there; the wire name goes first. -/
def Slot.find? (s : Slot) (es : Entries) : Option (String × Value) :=
  match es.getText? s.wire with
  | some v => some (s.wire, v)
  | none => (es.getText? s.attr).map fun v => (s.attr, v)

/-- A given value as it is, except where null stands for an empty list: what is given there has each key once. -/
def Slot.normalise (s : Slot) (v : Value) : Value :=
  if s.nullMeansEmpty then
    match v with
    | .null => .list []
    | v => v.merged
  else v

/-- The items of a value that may stand for a list: a view gives its octets as integers, a record its fields as pairs
of name and value. -/
def Value.items? : Value → Option (List Value)
  | .list xs => some xs
  | .tuple xs => some xs
  | .octets .view bs => some (bs.map fun b => .int b.toNat)
  | .record _ _ fs _ => some (fs.map fun f => .tuple [.text f.1, f.2])
  | _ => none

def Entries.dropNulls (es : Entries) : Entries :=
  es.filter fun e => match e.2 with
    | .null => false
    | _ => true

namespace Check

def items (check : Value → Check Value) : Nat → List Value → Check (List Value)
  | _, [] => .ok []
  | i, x :: xs => both List.cons (under (.index i) (check x)) (items check (i + 1) xs)

/-- A key that must be text in a form. -/
def key (form : TextForm) (k : Value) : Check Value := under (Location.ofKey k) (under (.name "[key]") (text form k))

/-- All entries of a map, each under its key: the key first, then the value. A repeated key is looked at each time. -/
def entries (form : TextForm) (check : Value → Check Value) : Entries → Check Entries
  | [] => .ok []
  | (k, v) :: es =>
    both List.cons (both Prod.mk (key form k) (under (Location.ofKey k) (check v))) (entries form check es)

end Check

/-- What a value offers to a record of a kind: the entries of a map, without its nulls if the kind is a report, or
the fields of a record of the same kind with text in another form. -/
def RecordKind.offer? (kind : RecordKind) : Value → Option Entries
  | .map es => some (if kind.isReport then Entries.dropNulls es else es)
  | .record kind' _ fs _ => if kind' = kind then some (fs.map fun f => (.text f.1, f.2)) else none
  | _ => none

/-- A record that may stay as it is: of the kind, and with text in the form or in a form where all text may be. -/
def RecordKind.accepts (kind : RecordKind) (form : TextForm) : Value → Bool
  | .record kind' form' _ _ => kind' = kind && (form' = form || form = .given)
  | _ => false

namespace Shape

mutual

def check (form : TextForm) : Shape → Value → Check Value
  | .flag, v => Check.flag v
  | .count, v => Check.count v
  | .text, v => Check.text form v
  | .optional s, v =>
    match v with
    | .null => .ok .null
    | _ => check form s v
  | .list s, v =>
    match v.items? with
    | some xs => .list <$> Check.items (check form s) 0 xs
    | none => Check.fail .notList
  | .map s, v =>
    match v with
    | .map es => (fun done => .map (Entries.ofList done)) <$> Check.entries form (check form s) es
    | _ => Check.fail .notMap
  | .record kind fields, v =>
    if kind.accepts form v then .ok v
    else match kind.offer? v with
      | some es => (fun fs => .record kind form fs []) <$> checkFields form fields es
      | none => Check.fail .notRecord

def checkFields (form : TextForm) : List (Slot × Shape) → Entries → Check (List (String × Value))
  | [], _ => .ok []
  | (slot, shape) :: rest, es =>
    let here : Check Value := match slot.find? es with
      | some (name, v) => Check.under (.name name) (check form shape (slot.normalise v))
      | none => match slot.fallback with
        | some ⟨v, true⟩ => .ok v
        | some ⟨v, false⟩ => Check.under (.name slot.wire) (check form shape v)
        | none => .error [⟨.missing, [.name slot.wire]⟩]
    Check.both (fun v fs => (slot.attr, v) :: fs) here (checkFields form rest es)

end

end Shape

/-- The form of text that a kind can have: reports have characters. -/
def RecordKind.formOf (kind : RecordKind) (form : TextForm) : TextForm := if kind.isReport then .characters else form

def RecordKind.check (kind : RecordKind) (form : TextForm) (v : Value) : Check Value :=
  kind.shape.check (kind.formOf form) v

/-- The document of a JSON text in octets: strict UTF-8 that holds one document. -/
def Check.document (bs : List UInt8) : Check Json :=
  match Utf8.decode bs with
  | .ok s => match Json.parseBody s with
    | .ok j => .ok j
    | .error _ => fail .notJson
  | .error _ => fail .notJson

/-- What a document offers to a record of a kind: a report has each member once, all else has them as written. -/
def RecordKind.offered (kind : RecordKind) (j : Json) : Value := if kind.isReport then j.plain else j.toValue

/-- A record of a kind from JSON text in octets. -/
def RecordKind.read (kind : RecordKind) (form : TextForm) (bs : List UInt8) : Check Value := do
  kind.check form (kind.offered (← Check.document bs))

/-- A record of a kind from a value that holds JSON text: text, fixed octets or a buffer. -/
def RecordKind.readGiven (kind : RecordKind) (form : TextForm) : Value → Check Value
  | .text s => kind.read form (Utf8.encode s)
  | .octets .fixed bs | .octets .buffer bs => kind.read form bs
  | _ => Check.fail .noJson

/-- What an unchecked record takes for a field: what is given under one of its names, else the raw fallback. -/
def Slot.takeUnchecked (s : Slot) (es : Entries) : Option (String × Value) :=
  match s.find? es with
  | some (_, v) => some (s.attr, v)
  | none => s.fallback.map fun f => (s.attr, f.value)

/-- A record made without any check: fields that are required and not given are absent. -/
def RecordKind.unchecked (kind : RecordKind) (form : TextForm) (es : Entries) : Value :=
  .record kind (kind.formOf form) (kind.slots.filterMap (·.takeUnchecked es)) []

end DaemonClient
