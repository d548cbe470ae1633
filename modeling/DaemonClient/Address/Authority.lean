import DaemonClient.Address.Ip
import DaemonClient.Text.Lowercase
import DaemonClient.Text.Quoted

/-! The authority of a daemon address: what stands between the scheme and the path, with the host and the port that
it names. -/

namespace DaemonClient

/-- Why an authority names no host and port. -/
inductive AuthorityFault
  /-- A bracket without its partner, or text beside a bracketed host. -/
  | misplacedBrackets
  /-- A bracketed address of a future version that is not written as one. -/
  | badFutureAddress
  /-- A host that is no numeric address, where brackets ask for one. -/
  | notNumeric (host : String)
  /-- An address of four decimal parts, where brackets ask for another kind. -/
  | bracketedDecimal
  /-- A character that stands for a delimiter in another spelling. -/
  | disguisedDelimiter (authority : String)
  | badPort (port : String)
  | longPort (digits : Nat)
  | portOutOfRange
  deriving DecidableEq

def AuthorityFault.message : AuthorityFault → String
  | misplacedBrackets => "Invalid IPv6 URL"
  | badFutureAddress => "IPvFuture address is invalid"
  | notNumeric host => s!"{Text.quoted host} does not appear to be an IPv4 or IPv6 address"
  | bracketedDecimal => "An IPv4 address cannot be in brackets"
  | disguisedDelimiter authority => s!"netloc '{authority}' contains invalid characters under NFKC normalization"
  | badPort port => s!"Port could not be cast to integer value as {Text.quoted port}"
  | longPort digits =>
    s!"Exceeds the limit ({digitLimit} digits) for integer string conversion: value has {digits} digits; " ++
      "use sys.set_int_max_str_digits() to increase the limit"
  | portOutOfRange => "Port out of range 0-65535"

namespace Authority

/-- Characters whose compatibility spelling holds a delimiter of addresses, such as the full-width colon. -/
def disguises : List Nat :=
  [0x2047, 0x2048, 0x2049, 0x2100, 0x2101, 0x2105, 0x2106, 0x2A74, 0xFE13, 0xFE16, 0xFE55, 0xFE56, 0xFE5F, 0xFE6B,
    0xFF03, 0xFF0F, 0xFF1A, 0xFF1F, 0xFF20]

/-- Text before the first occurrence of a character, and what follows it, if it occurs. -/
def cut (c : Char) (cs : List Char) : List Char × Option (List Char) :=
  match cs.dropWhile (· != c) with
  | [] => (cs, none)
  | _ :: after => (cs.takeWhile (· != c), some after)

/-- Text after the last occurrence of a character, all of it if there is none. -/
def afterLast (c : Char) (cs : List Char) : List Char := (cs.reverse.takeWhile (· != c)).reverse

/-- The authority after a scheme: up to the first slash, question mark or number sign. Tabs and line ends count for
nothing. -/
def ofRest (cs : List Char) : List Char :=
  (cs.filter fun c => c != '\t' && c != '\n' && c != '\r').takeWhile fun c => c != '/' && c != '?' && c != '#'

/-- The form of a future address: its version in hexadecimal digits, a point and something more. -/
def isFutureAddress : List Char → Bool
  | 'v' :: rest =>
    let (version, address) := cut '.' rest
    !version.isEmpty && version.all (fun c => (hexValue? c).isSome) && address.any fun a => !a.isEmpty
  | _ => false

/-- What is wrong with a bracketed host. -/
def bracketFault? (host : List Char) : Option AuthorityFault :=
  if host.head? == some 'v' then if isFutureAddress host then none else some .badFutureAddress
  else if Ip.isV4 host then some .bracketedDecimal
  else if Ip.isV6 host then none
  else some (.notNumeric (String.ofList host))

/-- Host and port as written, without what stands before the last at sign. -/
def hostAndPort (cs : List Char) : List Char × List Char :=
  let info := afterLast '@' cs
  match cut '[' info with
  | (_, some bracketed) =>
    let (host, rest) := cut ']' bracketed
    (host, ((cut ':' (rest.getD [])).2).getD [])
  | (_, none) =>
    let (host, port) := cut ':' info
    (host, port.getD [])

/-- After the last at sign nothing stands before an opening bracket, and only a port after the closing one. -/
def isTight (cs : List Char) : Bool :=
  match cut '[' (afterLast '@' cs) with
  | (before, some bracketed) =>
    let rest := (cut ']' bracketed).2.getD []
    before.isEmpty && (rest.isEmpty || rest.head? == some ':')
  | (_, none) => true

/-- What is wrong with an authority as a whole. Brackets anywhere in it, also before an at sign, make its host one
that has to be numeric. -/
def fault? (cs : List Char) : Option AuthorityFault :=
  let opens := cs.contains '['
  let inBrackets :=
    if opens != cs.contains ']' then some .misplacedBrackets
    else if !opens then none
    else if isTight cs then bracketFault? (hostAndPort cs).1
    else some .misplacedBrackets
  match inBrackets with
  | some f => some f
  | none => if cs.any fun c => disguises.contains c.toNat then some (.disguisedDelimiter (String.ofList cs)) else none

/-- The host in lower case; a zone after a percent sign keeps its spelling. -/
def hostName (host : List Char) : String :=
  Text.lower (String.ofList (host.takeWhile (· != '%'))) ++ String.ofList (host.dropWhile (· != '%'))

/-- The number of a port, none for an empty one. -/
def portNumber (port : List Char) : Except AuthorityFault (Option Nat) :=
  if port.isEmpty then .ok none
  else if !port.all isAsciiDigit then .error (.badPort (String.ofList port))
  else if digitLimit < port.length then .error (.longPort port.length)
  else if 65535 < asciiValue port then .error .portOutOfRange
  else .ok (some (asciiValue port))

end Authority
end DaemonClient
