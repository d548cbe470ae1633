import DaemonClient.Client.Calls
import DaemonClient.Text.Arity

/-! Calls of the networks API by name, with their arguments in a row: the network first, then the options. A value of
any shape names a network by its text, and null in place of options stands for none. -/

namespace DaemonClient

inductive NetworkCall
  | create
  | remove
  | inspect
  | list
  | connect
  | disconnect
  | prune
  deriving DecidableEq, Repr

namespace NetworkCall

def name : NetworkCall → String
  | create => "create"
  | remove => "remove"
  | inspect => "inspect"
  | list => "list"
  | connect => "connect"
  | disconnect => "disconnect"
  | prune => "prune"

def all : List NetworkCall := [create, remove, inspect, list, connect, disconnect, prune]

def ofName? (s : String) : Option NetworkCall := all.find? fun c => c.name == s

def optionsKind? : NetworkCall → Option RecordKind
  | create => some .createOptions
  | remove => none
  | inspect => some .inspectOptions
  | list => some .listOptions
  | connect => some .connectOptions
  | disconnect => some .disconnectOptions
  | prune => some .pruneOptions

def arity (c : NetworkCall) : Arity :=
  let (needed, optional) : List String × Nat := match c with
    | create => (["options"], 0)
    | remove => (["network_name"], 0)
    | inspect => (["network_name"], 1)
    | list | prune => ([], 1)
    | connect | disconnect => (["network_name", "options"], 0)
  ⟨"NetworkCollection." ++ c.name, needed, optional⟩

/-- Options that may be left out. -/
def given? : Value → Option Value
  | .null => none
  | v => some v

/-- The call with arguments, or the words for a wrong number of them. -/
def apply (c : NetworkCall) (arguments : List Value) : Except String Call :=
  match c, arguments with
  | create, [options] => .ok (.create options)
  | remove, [network] => .ok (.remove network.shown)
  | inspect, [network] => .ok (.inspect network.shown none)
  | inspect, [network, options] => .ok (.inspect network.shown (given? options))
  | list, [] => .ok (.list none)
  | list, [options] => .ok (.list (given? options))
  | connect, [network, options] => .ok (.connect network.shown options)
  | disconnect, [network, options] => .ok (.disconnect network.shown options)
  | prune, [] => .ok (.prune none)
  | prune, [options] => .ok (.prune (given? options))
  | c, vs => .error ((c.arity.misfit? vs.length).getD "")

end NetworkCall
end DaemonClient
