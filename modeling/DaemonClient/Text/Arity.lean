/-! How many arguments something takes in a row, and the words for too few and for too many. What it is asked of counts
as one more argument, which is always given. -/

namespace DaemonClient

/-- What takes arguments in a row: its name, the parameters that must be given, and how many more may be. -/
structure Arity where
  name : String
  needed : List String
  optional : Nat := 0

namespace Arity

/-- Names in quotes, the last one set off. -/
def listed : List String → String
  | [] => ""
  | [a] => s!"'{a}'"
  | [a, b] => s!"'{a}' and '{b}'"
  | [a, b, c] => s!"'{a}', '{b}', and '{c}'"
  | a :: rest => s!"'{a}', " ++ listed rest

def missingText (a : Arity) (missing : List String) : String :=
  let plural := if missing.length = 1 then "" else "s"
  s!"{a.name}() missing {missing.length} required positional argument{plural}: {listed missing}"

def surplusText (a : Arity) (given : Nat) : String :=
  let least := a.needed.length + 1
  let range := if a.optional = 0 then s!"{least}" else s!"from {least} to {least + a.optional}"
  s!"{a.name}() takes {range} positional arguments but {given + 1} were given"

/-- What is wrong with a number of arguments. -/
def misfit? (a : Arity) (given : Nat) : Option String :=
  if given < a.needed.length then some (a.missingText (a.needed.drop given))
  else if a.needed.length + a.optional < given then some (a.surplusText given)
  else none

end Arity
end DaemonClient
