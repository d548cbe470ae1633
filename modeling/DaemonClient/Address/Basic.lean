import DaemonClient.Address.Authority
import DaemonClient.Value.Literal

/-! The address of a daemon: a socket path or a host with a port, and how one is chosen from what the caller, the
environment and the platform say. -/

namespace DaemonClient

inductive Address
  | socket (path : String)
  | host (name : String) (port : Nat)
  deriving DecidableEq, Repr

/-- What the choice of an address depends on: environment variables, the name of the platform, and the paths that
exist. -/
structure Surroundings where
  environment : List (String × String) := []
  platform : String := "Linux"
  paths : List String := ["/var/run/docker.sock"]

def Surroundings.lookup? (w : Surroundings) (name : String) : Option String := w.environment.lookup name

def Surroundings.has (w : Surroundings) (path : String) : Bool := w.paths.contains path

/-- A path below the home directory: the directory's closing slashes count for nothing, and no path at all is the
root. -/
def Surroundings.underHome (w : Surroundings) (tail : String) : String :=
  match w.lookup? "HOME" with
  | some home =>
    let path := String.ofList ((home.toList.reverse.dropWhile (· == '/')).reverse) ++ tail
    if path == "" then "/" else path
  | none => "~" ++ tail

inductive AddressFault
  | authority (fault : AuthorityFault)
  | missingSocket (path : String)
  | octets
  | notText (typeName : String)
  deriving DecidableEq

def AddressFault.message : AddressFault → String
  | authority fault => fault.message
  | missingSocket path => s!"Docker socket not found: {path}"
  | octets => "a bytes-like object is required, not 'str'"
  | notText typeName => s!"'{typeName}' object has no attribute 'startswith'"

namespace Address

/-- The socket that a daemon listens on by default. -/
def defaultSocket : String := "/var/run/docker.sock"

/-- The port that a daemon listens on by default. -/
def defaultPort : Nat := 2375

/-- A text with the first occurrence of a pattern replaced. -/
def replaceFirst (pattern replacement : List Char) : List Char → List Char
  | [] => if pattern.isEmpty then replacement else []
  | c :: cs =>
    if pattern.isPrefixOf (c :: cs) then replacement ++ (c :: cs).drop pattern.length
    else c :: replaceFirst pattern replacement cs

def tcpScheme : List Char := ['t', 'c', 'p', ':', '/', '/']
def httpScheme : List Char := ['h', 't', 't', 'p', ':', '/', '/']
def unixScheme : List Char := ['u', 'n', 'i', 'x', ':', '/', '/']

/-- Host and port of what follows the scheme: the local host and the default port stand for empty ones, and the
default port for port zero. -/
def ofAuthority (cs : List Char) : Except AddressFault Address :=
  match Authority.fault? cs with
  | some f => .error (.authority f)
  | none =>
    let written := Authority.hostAndPort cs
    let name := if written.1.isEmpty then "localhost" else Authority.hostName written.1
    match Authority.portNumber written.2 with
    | .error f => .error (.authority f)
    | .ok p =>
      let number := match p with
        | none | some 0 => defaultPort
        | some n => n
      .ok (.host name number)

/-- The address of a text. A leading `tcp://` or `http://` makes it a host, anything else is a socket path, from
which the first `unix://` is taken out wherever it stands. -/
def ofChars (w : Surroundings) (cs : List Char) : Except AddressFault Address :=
  if tcpScheme.isPrefixOf cs || httpScheme.isPrefixOf cs then
    ofAuthority (Authority.ofRest ((replaceFirst tcpScheme httpScheme cs).drop httpScheme.length))
  else
    let path := String.ofList (replaceFirst unixScheme [] cs)
    if w.has path then .ok (.socket path) else .error (.missingSocket path)

/-- The address text when the caller gives none: the environment's, else the user's own socket where the platform
has one, else the default socket. -/
def defaultText (w : Surroundings) : String :=
  match w.lookup? "DOCKER_HOST" with
  | some "" | none =>
    let own := w.underHome "/.docker/run/docker.sock"
    if w.platform == "Darwin" && w.has own then "unix://" ++ own else "unix://" ++ defaultSocket
  | some text => text

/-- The address for what the caller gives; null means nothing given. -/
def choose (w : Surroundings) : Value → Except AddressFault Address
  | .null => ofChars w (defaultText w).toList
  | .text s => ofChars w s.toList
  | .octets .fixed _ | .octets .buffer _ => .error .octets
  | v => .error (.notText v.typeName)

end Address
end DaemonClient
