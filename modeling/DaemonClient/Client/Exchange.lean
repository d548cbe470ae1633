import DaemonClient.Client.Error
import DaemonClient.Http.RequestText
import DaemonClient.Address.Basic

/-! One request over one connection. An exchange tells its outcome, what the other side saw of it, and what was
logged; the client itself has no state that a call could change. -/

namespace DaemonClient

inductive LogLevel
  | debug
  | info
  | warning
  deriving DecidableEq, Repr

def LogLevel.name : LogLevel → String
  | debug => "DEBUG"
  | info => "INFO"
  | warning => "WARNING"

structure LogLine where
  level : LogLevel
  message : String
  deriving DecidableEq, Repr

/-- A client: where its daemon listens, how long it waits, and the version that its requests are pinned to. -/
structure Client where
  address : Address
  timeout : Value
  version : Value

/-- A daemon as one exchange meets it: scripted, with a reply whatever the request, or speaking HTTP/1.1 with all the
octets it sends before it closes. A scripted daemon may fail at any stage. A speaking one may fail while it is dialled
or written to; its octets alone say how reading goes, and a failure at a later stage counts for nothing. -/
inductive Daemon
  | scripted (reply : Reply) (failure : Option (Stage × TransportFault))
  | speaking (octets : List UInt8) (failure : Option (Stage × TransportFault))

/-- A request as it is handed to a connection. -/
structure Handed where
  method : String
  target : String
  body : Option (List UInt8)
  headers : List Header

/-- What the other side sees of an exchange: the request handed to it, whether it was dialled, the octets that went
out, and how often the connection was closed. -/
structure Seen where
  handed : Option Handed := none
  dialled : Bool := false
  sent : Option (List UInt8) := none
  closed : Nat := 0

/-- An exchange: its outcome, what was seen of it, and what was logged. -/
structure Exchange (α : Type) where
  outcome : Except CallError α
  seen : Seen := {}
  log : List LogLine := []

namespace Exchange

/-- Goes on with the outcome, if there is one, without any further exchange. -/
def andThen {α β : Type} (x : Exchange α) (f : α → Except CallError β) : Exchange β :=
  ⟨x.outcome.bind f, x.seen, x.log⟩

/-- Tells an error in another way. -/
def reword {α : Type} (x : Exchange α) (f : CallError → CallError) : Exchange α :=
  ⟨x.outcome.mapError f, x.seen, x.log⟩

def failed {α : Type} (e : CallError) : Exchange α := ⟨.error e, {}, []⟩

end Exchange

/-- The first fault of the host that a connection would be made to. -/
def Address.hostFault? : Address → Option TransportFault
  | .socket _ => none
  | .host name _ => (name.toList.find? breaksTarget).map (.controlInHost name)

def failureAt (stage : Stage) (failure : Option (Stage × TransportFault)) : Option TransportFault :=
  match failure with
  | some (s, f) => if s = stage then some f else none
  | none => none

namespace Daemon

/-- What comes back for a request, and what the daemon sees of it. -/
def answer [Machine] (d : Daemon) (r : Request) (target : String) : Except TransportFault Reply × Seen :=
  match d with
  | scripted reply failure =>
    let seen : Seen := ⟨some ⟨r.method, target, r.body, r.outgoingHeaders⟩, false, none, 1⟩
    match failure with
    | some (_, f) => (.error f, seen)
    | none => (.ok { reply with headers := Header.collect reply.headers }, seen)
  | speaking octets failure =>
    match Request.lineFault? r.method target with
    | some f => (.error f, ⟨none, false, none, 1⟩)
    | none =>
      let dialled : Seen := ⟨none, true, none, 1⟩
      match failureAt .connect failure, failureAt .request failure with
      | some f, _ => (.error f, dialled)
      | none, some f => (.error f, dialled)
      | none, none => (Reply.read r.method octets, { dialled with sent := some (r.octets target) })

end Daemon

namespace Client

def wrapFault (method target : String) (f : TransportFault) : CallError :=
  if f.isTransport then .transport method target f else .escaped f

/-- Sends a request and waits for the reply. A host that no connection can be made to ends the exchange with that
fault itself; faults of the connection count as failed transport, and a status of 400 or more is a refusal. -/
def send [Machine] (c : Client) (d : Daemon) (r : Request) : Exchange Reply :=
  let target := r.target c.version
  let log := [LogLine.mk .debug s!"{r.method} {target}"]
  match c.address.hostFault? with
  | some f => ⟨.error (.escaped f), {}, log⟩
  | none =>
    match d.answer r target with
    | (.error f, seen) => ⟨.error (wrapFault r.method target f), seen, log⟩
    | (.ok reply, seen) =>
      if 400 ≤ reply.status then ⟨.error (CallError.ofReply reply), seen, log⟩
      else ⟨.ok reply, seen, log⟩

end Client
end DaemonClient
