import DaemonClient.Value.Basic

/-! Values under names, in an order: what a record holds, and settings. -/

namespace DaemonClient

/-- Values under names, each name once. -/
abbrev Named := List (String × Value)

namespace Named

/-- Puts a value under a name: a name that is there keeps its place, a new one goes to the end. -/
def put (s : Named) (name : String) (v : Value) : Named :=
  match s with
  | [] => [(name, v)]
  | (n, w) :: rest => if n == name then (n, v) :: rest else (n, w) :: put rest name v

def putAll (s : Named) (more : Named) : Named := more.foldl (fun s e => put s e.1 e.2) s

def get? (s : Named) (name : String) : Option Value := s.lookup name

def ofEntries (es : Entries) : Named :=
  es.filterMap fun e => match e.1 with
    | .text name => some (name, e.2)
    | _ => none

/-- The entries of a map with the names as its keys. -/
def toEntries (s : Named) : Entries := s.map fun e => (.text e.1, e.2)

end Named
end DaemonClient
