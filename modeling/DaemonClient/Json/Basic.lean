import DaemonClient.Value.Basic

/-! JSON documents. Members keep their order, and a name that was written twice is there twice. Floats include the
values that RFC 8259 has no notation for, because daemons and settings files may hold them. -/

namespace DaemonClient

inductive Json
  | null
  | bool (b : Bool)
  | int (n : Int)
  | float (x : Binary64)
  | text (s : String)
  | array (items : List Json)
  | object (members : List (String × Json))
  deriving Inhabited

namespace Json

mutual

/-- A document as a value, member by member: objects are maps with text keys, each as often as it was written. -/
def toValue : Json → Value
  | null => .null
  | bool b => .bool b
  | int n => .int n
  | float x => .float x
  | text s => .text s
  | array items => .list (toValues items)
  | object members => .map (toEntries members)

def toValues : List Json → List Value
  | [] => []
  | j :: js => j.toValue :: toValues js

def toEntries : List (String × Json) → Entries
  | [] => []
  | (k, j) :: ms => (.text k, j.toValue) :: toEntries ms

end

/-- A document as a value that has each key once: of members with one name the last counts, at the place of the
first. -/
def plain (j : Json) : Value := j.toValue.merged

end Json
end DaemonClient
