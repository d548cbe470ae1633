import DaemonClient.Value.Literal

/-! Problems found in data that should become a record: what is wrong, and the way there from the outside. A check
goes on after a problem and collects all of them in order. -/

namespace DaemonClient

inductive Location
  | name (s : String)
  | index (n : Int)
  deriving DecidableEq, Repr

inductive ProblemKind
  | missing
  | notRecord
  | notList
  | notMap
  | notText
  | illFormedText
  | notOctets
  | notFlag
  | unclearFlag
  | notInteger
  | unclearInteger
  | fractionalInteger
  | oversizedInteger
  | notFinite
  | noJson
  | notJson
  deriving DecidableEq, Repr

def ProblemKind.tag : ProblemKind → String
  | missing => "missing"
  | notRecord => "model_type"
  | notList => "list_type"
  | notMap => "dict_type"
  | notText => "string_type"
  | illFormedText => "string_unicode"
  | notOctets => "bytes_type"
  | notFlag => "bool_type"
  | unclearFlag => "bool_parsing"
  | notInteger => "int_type"
  | unclearInteger => "int_parsing"
  | fractionalInteger => "int_from_float"
  | oversizedInteger => "int_parsing_size"
  | notFinite => "finite_number"
  | noJson => "json_type"
  | notJson => "json_invalid"

/-- A problem and the way to it. -/
structure Problem where
  kind : ProblemKind
  path : List Location
  deriving DecidableEq, Repr

/-- The way to the value under a key: text and integers stand for themselves, other keys are shown as literals. -/
def Location.ofKey : Value → Location
  | .text s => .name s
  | .int n => if isWord n then .index n else .name (Value.int n).literal
  | .bool b => .index (if b then 1 else 0)
  | v => .name v.literal

/-- The outcome of a check: a result, or all problems in order. -/
abbrev Check (α : Type) := Except (List Problem) α

namespace Check

/-- A single problem, right here. -/
def fail {α : Type} (kind : ProblemKind) : Check α := .error [⟨kind, []⟩]

/-- The problems of a check, none if it has a result. -/
def problems {α : Type} : Check α → List Problem
  | .ok _ => []
  | .error ps => ps

/-- The same check one step further in. -/
def under {α : Type} (l : Location) : Check α → Check α
  | .ok a => .ok a
  | .error ps => .error (ps.map fun p => ⟨p.kind, l :: p.path⟩)

/-- Two checks, both made whatever the first one finds. -/
def both {α β γ : Type} (f : α → β → γ) : Check α → Check β → Check γ
  | .ok a, .ok b => .ok (f a b)
  | x, y => .error (x.problems ++ y.problems)

@[simp] theorem both_ok {α β γ : Type} (f : α → β → γ) (a : α) (b : β) : both f (.ok a) (.ok b) = .ok (f a b) := rfl

theorem problems_both {α β γ : Type} (f : α → β → γ) (x : Check α) (y : Check β) :
    (both f x y).problems = x.problems ++ y.problems := by
  cases x <;> cases y <;> simp [both, problems]

end Check
end DaemonClient
