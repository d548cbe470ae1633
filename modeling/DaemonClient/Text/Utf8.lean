/-! UTF-8: octets of characters, strict reading that names the first ill-formed span, and lossy reading that puts
U+FFFD for every maximal ill-formed subpart. Both readings run one machine, octet by octet, so they agree on what
is well-formed: `decode` succeeds exactly when `decodeLossy` replaces nothing. -/

namespace DaemonClient.Utf8

inductive Reason
  | badStart
  /-- A character is followed by an octet that cannot continue it. -/
  | badContinuation
  | truncated
  deriving DecidableEq, Repr

/-- The first ill-formed span: its offset, its length, its first octet and what is wrong there. -/
structure Fault where
  offset : Nat
  length : Nat
  octet : UInt8
  reason : Reason
  deriving DecidableEq, Repr

/-- A character under way: its first octet, the octets read so far, how many more it needs, the bounds of the next
one and the value collected so far. -/
structure Pending where
  lead : UInt8
  seen : Nat
  need : Nat
  least : Nat
  greatest : Nat
  value : Nat
  deriving DecidableEq, Repr

inductive Move
  | char (c : Char)
  | more (p : Pending)
  | bad
  deriving DecidableEq

/-- The first octet of a character. Overlong forms, surrogates and values above U+10FFFF are shut out by the bounds
of the second octet. -/
def start (b : UInt8) : Move :=
  let n := b.toNat
  if n < 0x80 then .char (Char.ofNat n)
  else if n < 0xC2 then .bad
  else if n < 0xE0 then .more ⟨b, 1, 1, 0x80, 0xBF, n - 0xC0⟩
  else if n < 0xF0 then
    .more ⟨b, 1, 2, if n = 0xE0 then 0xA0 else 0x80, if n = 0xED then 0x9F else 0xBF, n - 0xE0⟩
  else if n < 0xF5 then
    .more ⟨b, 1, 3, if n = 0xF0 then 0x90 else 0x80, if n = 0xF4 then 0x8F else 0xBF, n - 0xF0⟩
  else .bad

def Pending.push (p : Pending) (b : UInt8) : Move :=
  let n := b.toNat
  if p.least ≤ n ∧ n ≤ p.greatest then
    let value := p.value * 64 + (n - 0x80)
    if p.need ≤ 1 then .char (Char.ofNat value)
    else .more ⟨p.lead, p.seen + 1, p.need - 1, 0x80, 0xBF, value⟩
  else .bad

/-- Strict reading from an offset, with a character under way or none. -/
def decodeFrom : Nat → Option Pending → List UInt8 → Except Fault (List Char)
  | _, none, [] => .ok []
  | pos, some p, [] => .error ⟨pos - p.seen, p.seen, p.lead, .truncated⟩
  | pos, none, b :: rest =>
    match start b with
    | .char c => (c :: ·) <$> decodeFrom (pos + 1) none rest
    | .more p => decodeFrom (pos + 1) (some p) rest
    | .bad => .error ⟨pos, 1, b, .badStart⟩
  | pos, some p, b :: rest =>
    match p.push b with
    | .char c => (c :: ·) <$> decodeFrom (pos + 1) none rest
    | .more q => decodeFrom (pos + 1) (some q) rest
    | .bad => .error ⟨pos - p.seen, p.seen, p.lead, .badContinuation⟩

/-- The text of well-formed octets, or the first ill-formed span. -/
def decode (bs : List UInt8) : Except Fault String := String.ofList <$> decodeFrom 0 none bs

/-- Lossy reading with a character under way or none: an octet that cannot continue a character ends it as U+FFFD
and is read again as a first octet. -/
def decodeLossyFrom : Option Pending → List UInt8 → List Char
  | none, [] => []
  | some _, [] => ['\uFFFD']
  | none, b :: rest =>
    match start b with
    | .char c => c :: decodeLossyFrom none rest
    | .more p => decodeLossyFrom (some p) rest
    | .bad => '\uFFFD' :: decodeLossyFrom none rest
  | some p, b :: rest =>
    match p.push b with
    | .char c => c :: decodeLossyFrom none rest
    | .more q => decodeLossyFrom (some q) rest
    | .bad =>
      match start b with
      | .char c => '\uFFFD' :: c :: decodeLossyFrom none rest
      | .more q => '\uFFFD' :: decodeLossyFrom (some q) rest
      | .bad => '\uFFFD' :: '\uFFFD' :: decodeLossyFrom none rest

/-- The text of any octets, with U+FFFD for every maximal ill-formed subpart. -/
def decodeLossy (bs : List UInt8) : String := String.ofList (decodeLossyFrom none bs)

def encode (s : String) : List UInt8 := s.toList.flatMap String.utf8EncodeChar

/-- Two hexadecimal digits of an octet, in lower case. -/
def hexOctet (b : UInt8) : String :=
  String.ofList [Nat.digitChar (b.toNat / 16), Nat.digitChar (b.toNat % 16)]

def Reason.text : Reason → String
  | .badStart => "invalid start byte"
  | .badContinuation => "invalid continuation byte"
  | .truncated => "unexpected end of data"

/-- A span of one octet is told by the octet, a longer one by its first and last position. -/
def Fault.message (f : Fault) : String :=
  if f.length = 1 then
    s!"'utf-8' codec can't decode byte 0x{hexOctet f.octet} in position {f.offset}: {f.reason.text}"
  else
    s!"'utf-8' codec can't decode bytes in position {f.offset}-{f.offset + f.length - 1}: {f.reason.text}"

end DaemonClient.Utf8
