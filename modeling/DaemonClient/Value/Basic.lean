import DaemonClient.Record.Kind
import DaemonClient.Number.Reading

/-! Values that callers hand over and get back: the data a record may hold before and after checking. Maps keep the
order of their entries and take a key once, by the equality below; only text from outside can repeat a key, until it
is merged. -/

namespace DaemonClient

/-- What holds a run of octets: a fixed run, a buffer that may change, or a view into another's memory. -/
inductive OctetHolder
  | fixed
  | buffer
  | view
  deriving DecidableEq, Repr

/-- A value of any shape. A text is a sequence of characters: halves of UTF-16 pairs are none, so texts that hold one
are left out here, and where a reader admits them it puts the stand-ins of the machine. A record holds its fields and,
apart from them, notes: what an edit has left on it under names that its kind does not declare. Only an edit sees
notes. A `foreign` value has an identity and the name of a type and nothing else. -/
inductive Value
  | null
  | bool (b : Bool)
  | int (n : Int)
  | float (x : Binary64)
  | text (s : String)
  | octets (holder : OctetHolder) (bs : List UInt8)
  | list (xs : List Value)
  | tuple (xs : List Value)
  | map (entries : List (Value × Value))
  | record (kind : RecordKind) (form : TextForm) (fields notes : List (String × Value))
  | foreign (typeName : String)
  deriving Inhabited

namespace Value

def typeName : Value → String
  | null => "NoneType"
  | bool _ => "bool"
  | int _ => "int"
  | float _ => "float"
  | text _ => "str"
  | octets .fixed _ => "bytes"
  | octets .buffer _ => "bytearray"
  | octets .view _ => "memoryview"
  | list _ => "list"
  | tuple _ => "tuple"
  | map _ => "dict"
  | record kind form _ _ => kind.nameWith form
  | foreign typeName => typeName

/-- Whether a value counts as true: all do but null, false, zero and what is empty. -/
def truthy : Value → Bool
  | null => false
  | bool b => b
  | int n => n != 0
  | float x => !x.isZero
  | text s => s != ""
  | octets _ bs => !bs.isEmpty
  | list xs => !xs.isEmpty
  | tuple xs => !xs.isEmpty
  | map es => !es.isEmpty
  | record .. => true
  | foreign _ => true

/-- The integer that a number is: truth values count as 0 and 1, and a float counts if it has no fraction. -/
def toInt? : Value → Option Int
  | bool b => some (if b then 1 else 0)
  | int n => some n
  | float x => x.toInt?
  | _ => none

/-- The integer that a value stands for in an index: integers and truth values do, floats do not. -/
def asIndex? : Value → Option Int
  | int n => some n
  | bool b => some (if b then 1 else 0)
  | _ => none

/-- Equality of two numbers, without rounding. -/
def sameNumber : Value → Value → Bool
  | float x, float y => x.same y
  | v, w =>
    match v.toInt?, w.toInt? with
    | some m, some n => m == n
    | _, _ => false

mutual

/-- Equality of values: numbers by what they count, octets whatever holds them, lists and tuples item by item, maps
whatever the order of their entries, records of one kind by their fields, whatever the form of their text. -/
def same : Value → Value → Bool
  | null, w => match w with
    | null => true
    | _ => false
  | text s, w => match w with
    | text t => s == t
    | _ => false
  | octets _ bs, w => match w with
    | octets _ cs => bs == cs
    | _ => false
  | list xs, w => match w with
    | list ys => sameItems xs ys
    | _ => false
  | tuple xs, w => match w with
    | tuple ys => sameItems xs ys
    | _ => false
  | map es, w => match w with
    | map fs => es.length == fs.length && sameEntries es fs
    | _ => false
  | record kind _ fs _, w => match w with
    | record kind' _ gs _ => kind == kind' && fs.length == gs.length && sameFields fs gs
    | _ => false
  | foreign _, _ => false
  | bool b, w => sameNumber (bool b) w
  | int n, w => sameNumber (int n) w
  | float x, w => sameNumber (float x) w
termination_by structural v => v

def sameItems : List Value → List Value → Bool
  | [], [] => true
  | x :: xs, y :: ys => same x y && sameItems xs ys
  | _, _ => false
termination_by structural xs => xs

def sameEntries : List (Value × Value) → List (Value × Value) → Bool
  | [], _ => true
  | (k, v) :: rest, others => others.any (fun e => same k e.1 && same v e.2) && sameEntries rest others
termination_by structural es => es

def sameFields : List (String × Value) → List (String × Value) → Bool
  | [], _ => true
  | (a, v) :: rest, others => others.any (fun e => a == e.1 && same v e.2) && sameFields rest others
termination_by structural fs => fs

end

mutual

/-- What keeps a value from being the key of a map, by the name of its type: what may change cannot be one, and
neither can a tuple that holds such. -/
def unhashable? : Value → Option String
  | list _ => some "list"
  | map _ => some "dict"
  | octets .buffer _ => some "bytearray"
  | record kind form _ _ => some (kind.nameWith form)
  | tuple xs => unhashableItem? xs
  | _ => none

/-- The first item that keeps a tuple from being the key of a map. -/
def unhashableItem? : List Value → Option String
  | [] => none
  | x :: xs => unhashable? x <|> unhashableItem? xs

end

end Value

abbrev Entries := List (Value × Value)

namespace Entries

def get? (es : Entries) (k : Value) : Option Value := (es.find? fun e => k.same e.1).map (·.2)

/-- The value under a text key, the last one if the key is repeated. -/
def getText? (es : Entries) (k : String) : Option Value := get? es.reverse (.text k)

/-- Puts a value under a key: an equal key keeps its place and its spelling, a new key goes to the end. -/
def insert (es : Entries) (k v : Value) : Entries :=
  match es with
  | [] => [(k, v)]
  | (k', v') :: rest => if k.same k' then (k', v) :: rest else (k', v') :: insert rest k v

/-- The entries of a list of pairs, put in one after the other. -/
def ofList (pairs : List (Value × Value)) : Entries := pairs.foldl (fun es e => insert es e.1 e.2) []

end Entries

namespace Value

mutual

/-- A value whose maps have each key once: a repeated key counts as if its entries were put in one after the other. A
record stays as it is. -/
def merged : Value → Value
  | list xs => list (mergedItems xs)
  | tuple xs => tuple (mergedItems xs)
  | map es => map (Entries.ofList (mergedEntries es))
  | v => v

def mergedItems : List Value → List Value
  | [] => []
  | x :: xs => merged x :: mergedItems xs

/-- Entries whose values have maps with each key once. -/
def mergedEntries : List (Value × Value) → List (Value × Value)
  | [] => []
  | (k, v) :: es => (k, merged v) :: mergedEntries es

end

end Value

end DaemonClient
