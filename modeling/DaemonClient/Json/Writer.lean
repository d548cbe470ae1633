import DaemonClient.Json.Basic
import DaemonClient.Text.Quoted

/-! Compact JSON text in ASCII: no blanks, and every character outside the printable ASCII range as an escape, by
its UTF-16 units. -/

namespace DaemonClient.Json

def unitEscape (n : Nat) : List Char := '\\' :: 'u' :: Text.hexDigits 4 n

def escapeChar (c : Char) : List Char :=
  if c == '"' then ['\\', '"']
  else if c == '\\' then ['\\', '\\']
  else if c == '\n' then ['\\', 'n']
  else if c == '\r' then ['\\', 'r']
  else if c == '\t' then ['\\', 't']
  else if c == '\x08' then ['\\', 'b']
  else if c == '\x0C' then ['\\', 'f']
  else if ' ' ≤ c && c ≤ '~' then [c]
  else if c.toNat < 0x10000 then unitEscape c.toNat
  else
    let n := c.toNat - 0x10000
    unitEscape (0xD800 + n / 0x400) ++ unitEscape (0xDC00 + n % 0x400)

def writeText (s : String) : List Char := '"' :: (s.toList.flatMap escapeChar ++ ['"'])

/-- A JSON number for a float, with the words for values without digits. -/
def writeFloat (x : Binary64) : List Char :=
  if x.isNaN then "NaN".toList
  else if x.isInfinite then (if x.negative then "-Infinity" else "Infinity").toList
  else x.text

mutual

def write : Json → List Char
  | null => "null".toList
  | bool true => "true".toList
  | bool false => "false".toList
  | int n => decimalText n
  | float x => writeFloat x
  | text s => writeText s
  | array [] => ['[', ']']
  | array (j :: js) => '[' :: (write j ++ writeItems js)
  | object [] => ['\x7b', '\x7d']
  | object ((k, j) :: ms) => '\x7b' :: (writeText k ++ ':' :: (write j ++ writeMembers ms))

def writeItems : List Json → List Char
  | [] => [']']
  | j :: js => ',' :: (write j ++ writeItems js)

/-- The rest of an object after its first member. -/
def writeMembers : List (String × Json) → List Char
  | [] => ['\x7d']
  | (k, j) :: ms => ',' :: (writeText k ++ ':' :: (write j ++ writeMembers ms))

end

def render (j : Json) : String := String.ofList j.write

end DaemonClient.Json
