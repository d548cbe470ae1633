import DaemonClient.Value.Basic
import DaemonClient.Text.Quoted

/-! Values as messages show them: text in quotes and containers with their brackets. A value with an identity only
is shown by its type, and one that holds an integer of too many digits cannot be shown. -/

namespace DaemonClient.Value

def octetsLiteral : OctetHolder → List UInt8 → String
  | .fixed, bs => Text.quotedOctets bs
  | .buffer, bs => "bytearray(" ++ Text.quotedBuffer bs ++ ")"
  | .view, _ => "<memory>"

mutual

def literal : Value → String
  | null => "None"
  | bool true => "True"
  | bool false => "False"
  | int n => String.ofList (decimalText n)
  | float x => String.ofList x.text
  | text s => Text.quoted s
  | octets holder bs => octetsLiteral holder bs
  | list xs => "[" ++ ", ".intercalate (literals xs) ++ "]"
  | tuple [x] => "(" ++ literal x ++ ",)"
  | tuple xs => "(" ++ ", ".intercalate (literals xs) ++ ")"
  | map es => "\x7b" ++ ", ".intercalate (entryLiterals es) ++ "\x7d"
  | record kind form fs _ => kind.nameWith form ++ "(" ++ ", ".intercalate (fieldLiterals fs) ++ ")"
  | foreign typeName => "<" ++ typeName ++ ">"

def literals : List Value → List String
  | [] => []
  | x :: xs => literal x :: literals xs

/-- The literals of entries, key and value joined by a colon. -/
def entryLiterals : List (Value × Value) → List String
  | [] => []
  | (k, v) :: es => (literal k ++ ": " ++ literal v) :: entryLiterals es

/-- The literals of fields, name and value joined by an equals sign. -/
def fieldLiterals : List (String × Value) → List String
  | [] => []
  | (a, v) :: fs => (a ++ "=" ++ literal v) :: fieldLiterals fs

end

/-- A value inside a text: text stands as it is, fields of a record without its name, all else as a literal. -/
def shown : Value → String
  | text s => s
  | record _ _ fs _ => " ".intercalate (fieldLiterals fs)
  | v => v.literal

mutual

/-- A value can be shown if each of its integers may be turned into text. -/
def hasLiteral : Value → Bool
  | int n => !exceedsDigitLimit n
  | list xs => haveLiterals xs
  | tuple xs => haveLiterals xs
  | map es => entriesHaveLiterals es
  | record _ _ fs _ => fieldsHaveLiterals fs
  | _ => true

def haveLiterals : List Value → Bool
  | [] => true
  | x :: xs => hasLiteral x && haveLiterals xs

def entriesHaveLiterals : List (Value × Value) → Bool
  | [] => true
  | (k, v) :: es => hasLiteral k && hasLiteral v && entriesHaveLiterals es

def fieldsHaveLiterals : List (String × Value) → Bool
  | [] => true
  | (_, v) :: fs => hasLiteral v && fieldsHaveLiterals fs

end

end DaemonClient.Value
