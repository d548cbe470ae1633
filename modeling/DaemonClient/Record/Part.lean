import DaemonClient.Record.Shape
import DaemonClient.Value.Named

/-! What a record shows under a name. First come names that tell what is worked out from the record, then its fields,
then its notes, and last what all records of its kind share or begin with. A record can also show all it holds as one
map, and be made from such a map again. -/

namespace DaemonClient

namespace RecordKind

/-- A name that a kind of record declares for a field. -/
def declares (kind : RecordKind) (attr : String) : Bool := (kind.slots.map (·.attr)).contains attr

/-- The names of what a record of a kind can be asked to do. -/
def callables (kind : RecordKind) : List String :=
  ["to_wire", "into_body", "copy", "dict", "json", "construct", "validate", "schema", "model_copy", "model_dump",
    "model_dump_json", "model_construct", "model_validate", "model_validate_json", "model_json_schema",
    "model_post_init", "model_rebuild"] ++
  (if kind.isOptions then ["into_query_params"] else []) ++
  (if kind.isReport then ["drop_nulls"] else []) ++
  (if kind = addressSettings then ["null_config_as_empty"] else [])

/-- What all records begin with under names between double underscores: the set of fields that were given, and neither
further fields nor private ones. -/
def initial? (attr : String) : Option Value :=
  if !attr.startsWith "__" then none
  else if attr.endsWith "_fields_set__" then some (.foreign "set")
  else if attr.endsWith "_extra__" || attr.endsWith "_private__" then some .null
  else none

/-- What all records of a kind show under a name. -/
def shared? (kind : RecordKind) (attr : String) : Option Value :=
  if kind.callables.contains attr then some (.foreign "method")
  else match attr with
    | "model_fields" => some (.map (kind.slots.map fun s => (.text s.attr, .foreign "FieldInfo")))
    | "model_computed_fields" => some (.map [])
    | "model_config" =>
      some (.map [(.text "alias_generator", .foreign "function"), (.text "populate_by_name", .bool true)])
    | _ => initial? attr

end RecordKind

namespace Record

/-- The name under which a record shows all it holds. -/
def holdingsName : String := "__dict__"

/-- The name under which a record shows its type. -/
def typeAttr : String := "__class__"

/-- What a record shows under names that tell what is worked out from it. -/
def derived? : String → Option Value
  | "model_fields_set" | "__fields_set__" => some (.foreign "set")
  | "model_extra" => some .null
  | _ => none

def part? (kind : RecordKind) (fields notes : Named) (attr : String) : Option Value :=
  if attr == holdingsName then some (.map (fields ++ notes).toEntries)
  else if attr == typeAttr then some (.foreign "ModelMetaclass")
  else derived? attr <|> fields.lookup attr <|> notes.lookup attr <|> kind.shared? attr

/-- A record that holds the named entries of a map: under names that its kind declares its fields, under others its
notes. -/
def holding (kind : RecordKind) (form : TextForm) (es : Entries) : Value :=
  let (fields, notes) := (Named.ofEntries es).partition fun f => kind.declares f.1
  .record kind form fields notes

end Record
end DaemonClient
