import DaemonClient.Text.Utf8
import DaemonClient.Number.Reading

/-! Percent-encoding of query strings: every octet outside the unreserved characters of RFC 3986 is written as a
percent sign and two upper-case hexadecimal digits. Reading splits at `&` and `=` and decodes; since neither sign
is unreserved, no encoded part contains one. -/

namespace DaemonClient.Percent

/-- Letters, digits and the four signs that need no escape. -/
def isUnreserved (c : Char) : Bool :=
  c.isAlphanum || c == '_' || c == '.' || c == '-' || c == '~'

def hexUpper (n : Nat) : Char := if n < 10 then Char.ofNat ('0'.toNat + n) else Char.ofNat ('A'.toNat + (n - 10))

def encodeOctet (b : UInt8) : List Char :=
  let c := Char.ofNat b.toNat
  if isUnreserved c then [c] else ['%', hexUpper (b.toNat / 16), hexUpper (b.toNat % 16)]

def encode (bs : List UInt8) : List Char := bs.flatMap encodeOctet

def encodeText (s : String) : List Char := encode (Utf8.encode s)

def joinPair (name value : List Char) : List Char := name ++ '=' :: value

def joinPairs : List (List Char) → List Char
  | [] => []
  | [p] => p
  | p :: ps => p ++ '&' :: joinPairs ps

/-- The octets of an encoded part; none if a percent sign has no two hexadecimal digits after it, or a character
stands there that is no octet. -/
def decode : List Char → Option (List UInt8)
  | [] => some []
  | '%' :: a :: b :: rest => do
    let x ← hexValue? a
    let y ← hexValue? b
    let bs ← decode rest
    return UInt8.ofNat (16 * x + y) :: bs
  | c :: rest => if isUnreserved c then (UInt8.ofNat c.toNat :: ·) <$> decode rest else none

/-- The text of an encoded part. -/
def decodeText (cs : List Char) : Option String :=
  match decode cs with
  | some bs => (Utf8.decode bs).toOption
  | none => none

def split (separator : Char) : List Char → List (List Char)
  | [] => [[]]
  | c :: rest =>
    if c == separator then [] :: split separator rest
    else match split separator rest with
      | [] => [[c]]
      | p :: ps => (c :: p) :: ps

/-- The pairs of a query string: each part has one equals sign, and both sides decode. -/
def readPairs (cs : List Char) : Option (List (String × String)) :=
  (split '&' cs).mapM fun part =>
    match split '=' part with
    | [name, value] => do
      let n ← decodeText name
      let v ← decodeText value
      return (n, v)
    | _ => none

end DaemonClient.Percent
