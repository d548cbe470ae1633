import DaemonClient.Http.Raised

/-! Failures of an exchange with the daemon: those of the operating system and of the protocol, which a client
reports as failed transport, and all others, which it lets through. -/

namespace DaemonClient

inductive Stage
  | connect
  | request
  | reply
  | body
  deriving DecidableEq, Repr

inductive TransportFault
  | raised (failure : Failure)
  | closedEarly
  | badStatusLine (line : String)
  | unknownVersion (version : String)
  | longLine (part : String)
  | tooManyHeaders
  | shortBody (read : Nat) (missing : Option Nat)
  /-- A body or a chunk that memory does not hold. -/
  | oversizedLength
  | controlInTarget (target : String) (found : Char)
  | controlInHost (host : String) (found : Char)
  | controlInMethod (method : String) (found : Char)
  /-- Characters of the request line that are not ASCII: the first position and the positions of the run. -/
  | wideRequestLine (first : Char) (start length : Nat)

namespace TransportFault

/-- The most header lines that are read. -/
def headerLimit : Nat := 100

def text : TransportFault → String
  | raised failure => failure.text
  | closedEarly => "Remote end closed connection without response"
  | badStatusLine line => line
  | unknownVersion version => version
  | longLine part => s!"got more than {lineLimit} bytes when reading {part}"
  | tooManyHeaders => s!"got more than {headerLimit} headers"
  | shortBody read missing => shortBodyText read (missing.map fun n => s!"{n}")
  | oversizedLength => "cannot fit 'int' into an index-sized integer"
  | controlInTarget s c | controlInHost s c =>
    s!"URL can't contain control characters. {Text.quoted s} (found at least {Text.quoted (String.singleton c)})"
  | controlInMethod s c =>
    s!"method can't contain control characters. {Text.quoted s} (found at least {Text.quoted (String.singleton c)})"
  | wideRequestLine first start length =>
    let single := if length = 1 then some s!"'{Raised.wideText first}'" else none
    Raised.codingText "ascii" "encode" "character" single start (start + length) "ordinal not in range(128)"

/-- The failures that count as failed transport once the connection is made. -/
def isTransport : TransportFault → Bool
  | raised failure => failure.isTransport
  | oversizedLength | controlInMethod .. | wideRequestLine .. => false
  | _ => true

end TransportFault
end DaemonClient
