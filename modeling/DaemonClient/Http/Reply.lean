import DaemonClient.Http.Fault
import DaemonClient.Http.Request

/-! Replies, and how the octets that a daemon sends on a connection become one: status line, header lines, and a body
framed by chunks, by a length, or by the end of the connection. Lines are read as characters of the same code. -/

namespace DaemonClient

structure Reply where
  status : Int
  body : List UInt8 := []
  headers : List Header := []

/-- Headers with each name once: the last value of a name, at the place of its first. -/
def Header.collect (hs : List Header) : List Header := hs.foldl put []
where
  put (done : List Header) (h : Header) : List Header :=
    match done with
    | [] => [h]
    | d :: rest => if d.1 == h.1 then (d.1, h.2) :: rest else d :: put rest h

namespace Reply

/-- Octets as characters of the same code. -/
def latin (bs : List UInt8) : List Char := bs.map fun b => Char.ofNat b.toNat

/-- A line with its line feed, and the rest. The last line may have none. -/
def takeLine : List UInt8 → List UInt8 × List UInt8
  | [] => ([], [])
  | b :: rest => if b = 0x0A then ([b], rest) else let r := takeLine rest; (b :: r.1, r.2)

def boundedLine (part : String) (bs : List UInt8) : Except TransportFault (List UInt8 × List UInt8) :=
  let r := takeLine bs
  if lineLimit < r.1.length then .error (.longLine part) else .ok r

def isSpace (c : Char) : Bool :=
  Text.isBlank c || (0x1C ≤ c.toNat && c.toNat ≤ 0x1F) || Text.isWideBlank c

/-- A word and what follows it, blanks before either left out. -/
def takeWord (cs : List Char) : List Char × List Char :=
  let rest := cs.dropWhile isSpace
  (rest.takeWhile (!isSpace ·), (rest.dropWhile (!isSpace ·)).dropWhile isSpace)

/-- The version and the status of a status line. A status that is the last word goes to the end of the line, with all
the blanks there. -/
def readStatusLine (line : List Char) : Except TransportFault (String × Nat) :=
  let fault := TransportFault.badStatusLine (String.ofList line)
  let (version, rest) := takeWord line
  let (word, reason) := takeWord rest
  let status := if reason.isEmpty then rest else word
  if word.isEmpty || !"HTTP/".toList.isPrefixOf version then .error fault
  else match readInteger status with
    | some n => if 100 ≤ n ∧ n ≤ 999 then .ok (String.ofList version, n.toNat) else .error fault
    | none => .error fault

/-- Header lines up to and with the empty one that ends them. Fuel bounds the number of lines: more than the limit
are refused. -/
def headerLines : Nat → List UInt8 → Except TransportFault (List (List UInt8) × List UInt8)
  | 0, _ => .error .tooManyHeaders
  | fuel + 1, bs => do
    let (line, rest) ← boundedLine "header line" bs
    if line = [0x0D, 0x0A] ∨ line = [0x0A] ∨ line = [] then
      if fuel = 0 then .error .tooManyHeaders else return ([line], rest)
    else
      let (lines, rest') ← headerLines fuel rest
      return (line :: lines, rest')

/-- Lines that end with a carriage return, a line feed or both, with their ends. -/
def crack : List Char → List (List Char)
  | [] => []
  | '\r' :: '\n' :: rest => ['\r', '\n'] :: crack rest
  | c :: rest =>
    if c == '\r' || c == '\n' then [c] :: crack rest
    else match crack rest with
      | [] => [[c]]
      | line :: lines => (c :: line) :: lines

def isNameChar (c : Char) : Bool := '!' ≤ c && c ≤ '~' && c != ':'

/-- A line of a header block: a name with a colon, a continuation, or an envelope line. -/
def isHeaderLine (line : List Char) : Bool :=
  "From ".toList.isPrefixOf line || line.head? == some ' ' || line.head? == some '\t' ||
    (line.dropWhile isNameChar).head? == some ':'

/-- A header of its first line and the lines that continue it. -/
def headerOf (name : List Char) (value : List Char) (more : List Char) : Header :=
  let cs := value.dropWhile (fun c => c == ' ' || c == '\t') ++ more
  (String.ofList name, String.ofList ((cs.reverse.dropWhile fun c => c == '\r' || c == '\n').reverse))

/-- The headers of header lines, with a header under way: its name, its value and its continuations. -/
def headersFrom (open? : Option (List Char × List Char × List Char)) : List (List Char) → List Header
  | [] => close open?
  | line :: lines =>
    if line.head? == some ' ' || line.head? == some '\t' then
      match open? with
      | some (name, value, more) => headersFrom (some (name, value, more ++ line)) lines
      | none => headersFrom none lines
    else if "From ".toList.isPrefixOf line then
      close open? ++ headersFrom none lines
    else
      let name := line.takeWhile (· != ':')
      let value := (line.dropWhile (· != ':')).drop 1
      close open? ++ headersFrom (if name.isEmpty then none else some (name, value, [])) lines
where
  close : Option (List Char × List Char × List Char) → List Header
    | some (name, value, more) => [headerOf name value more]
    | none => []

/-- The headers of a block: its lines up to the first that is no header line. -/
def headersOf (block : List Char) : List Header := headersFrom none ((crack block).takeWhile isHeaderLine)

/-- The first value of a header, whatever the case of its name. -/
def header? (hs : List Header) (name : String) : Option String :=
  (hs.find? fun h => h.1.toList.map Char.toLower == name.toList).map (·.2)

/-- Status and headers of a reply, and what follows. Replies with status 100 announce another one and are passed
over, whatever their version. Fuel bounds the number of replies. -/
def readHead : Nat → List UInt8 → Except TransportFault (Nat × List Header × List UInt8)
  | 0, _ => .error .closedEarly
  | fuel + 1, bs => do
    let (line, rest) ← boundedLine "status line" bs
    if line.isEmpty then .error .closedEarly
    else
      let (version, status) ← readStatusLine (latin line)
      if status = 100 || version == "HTTP/0.9" || "HTTP/1.".toList.isPrefixOf version.toList then
        let (lines, rest') ← headerLines (TransportFault.headerLimit + 1) rest
        if status = 100 then readHead fuel rest' else return (status, headersOf (latin lines.flatten), rest')
      else .error (.unknownVersion version)

/-- Exactly so many octets, or the fault of a body that ended too soon or that memory does not hold. Memory is asked for
before anything is read, so the length that is told decides. A negative number takes all. -/
def takeExactly [Machine] (n : Int) (bs : List UInt8) : Except TransportFault (List UInt8 × List UInt8) :=
  if !isWord n || decide ((Machine.memory : Int) < n) then .error .oversizedLength
  else if n < 0 then .ok (bs, [])
  else if bs.length < n.toNat then .error (.shortBody bs.length (some (n.toNat - bs.length)))
  else .ok (bs.take n.toNat, bs.drop n.toNat)

/-- The size line of a chunk. Extensions after a semicolon count for nothing. -/
def chunkSize? (line : List UInt8) : Option Int := readHexInteger (latin (line.takeWhile (· != 0x3B)))

/-- The lines after the last chunk up to an empty one; only their length can be wrong. -/
def skipTrailer : Nat → List UInt8 → Except TransportFault Unit
  | 0, _ => .ok ()
  | fuel + 1, bs => do
    let (line, rest) ← boundedLine "trailer line" bs
    if line = [0x0D, 0x0A] ∨ line = [0x0A] ∨ line = [] then return ()
    else skipTrailer fuel rest

/-- Reads chunks after those already read. A fault of the framing tells how much was read in whole chunks. Fuel
bounds the number of chunks. -/
def readChunks [Machine] : Nat → List UInt8 → List UInt8 → Except TransportFault (List UInt8)
  | 0, done, _ => .error (.shortBody done.length none)
  | fuel + 1, done, bs => do
    let (line, rest) ← boundedLine "chunk size" bs
    match chunkSize? line with
    | none => .error (.shortBody done.length none)
    | some size =>
      if size = 0 then
        skipTrailer bs.length rest
        return done
      else match takeExactly size rest with
        | .error (.shortBody ..) => .error (.shortBody done.length none)
        | .error f => .error f
        | .ok (chunk, rest') =>
          if rest'.length < 2 then .error (.shortBody (done.length + chunk.length) none)
          else readChunks fuel (done ++ chunk) (rest'.drop 2)

/-- A reply whose body is chunked. -/
def isChunked (hs : List Header) : Bool :=
  match header? hs "transfer-encoding" with
  | some v => v.toList.map Char.toLower == "chunked".toList
  | none => false

/-- The length that the headers tell, if it is one. -/
def contentLength? (hs : List Header) : Option Nat :=
  match header? hs "content-length" with
  | some v => match readInteger v.toList with
    | some n => if 0 ≤ n then some n.toNat else none
    | none => none
  | none => none

/-- A reply that has no body whatever its headers tell. -/
def isBodiless (method : String) (status : Nat) : Bool :=
  status == 204 || status == 304 || (100 ≤ status && status < 200) || method == "HEAD"

def readBody [Machine] (method : String) (status : Nat) (hs : List Header) (bs : List UInt8) :
    Except TransportFault (List UInt8) :=
  if method == "HEAD" then .ok []
  else if isChunked hs then readChunks (bs.length + 1) [] bs
  else if isBodiless method status then .ok []
  else match contentLength? hs with
    | some n => (takeExactly n bs).map (·.1)
    | none => .ok bs

def read [Machine] (method : String) (bs : List UInt8) : Except TransportFault Reply := do
  let (status, hs, rest) ← readHead (bs.length + 1) bs
  let body ← readBody method status hs rest
  return ⟨status, body, Header.collect hs⟩

end Reply
end DaemonClient
