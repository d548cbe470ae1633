import DaemonClient.Http.Reply
import DaemonClient.Record.Wire
import DaemonClient.Json.Reader

/-! How a call can fail, and the words for it. A failed transport and a refusal by the daemon are different causes; a
refusal on the path of one network, with status 404, says that the network is not there. -/

namespace DaemonClient

inductive RefusalKind
  | general
  | networkNotFound
  deriving DecidableEq, Repr

/-- A status of 400 or more, with what the daemon says about it. -/
structure Refusal where
  kind : RefusalKind
  message : String
  reply : Option Reply
  status : Option Int
  explanation : Option String
  cause : Option RefusalKind := none

namespace Refusal

def isClientError (r : Refusal) : Bool :=
  match r.status with
  | some s => 400 ≤ s && s < 500
  | none => false

def isServerError (r : Refusal) : Bool :=
  match r.status with
  | some s => 500 ≤ s && s < 600
  | none => false

/-- What an error body says: the member `message` of a JSON object, shown as text, else the body itself. Halves of
UTF-16 pairs are shown as their stand-ins. A document that is nested too deeply says nothing. -/
def explain [Machine] (body : List UInt8) : Except Json.Container String :=
  let text := Utf8.decodeLossy body
  match (Json.parseText text).map Json.plain with
  | .ok (.map members) => .ok (((Entries.getText? members "message").map Value.shown).getD text)
  | .ok _ | .error .malformed => .ok text
  | .error (.tooDeep container) => .error container

def ofReply [Machine] (r : Reply) : Except Json.Container Refusal := do
  let explanation ← explain r.body
  return ⟨.general, "Docker API error: " ++ explanation, some r, some r.status, some explanation, none⟩

/-- The same refusal, as news about a network; only status 404 says that it is not there. -/
def about (name : String) (r : Refusal) : Refusal :=
  if r.status = some 404 then
    ⟨.networkNotFound, "Network not found: " ++ name, r.reply, r.status, r.explanation, some r.kind⟩
  else r

end Refusal

inductive CallError
  | options (fault : OptionsFault)
  /-- A request that did not reach the daemon, or a reply that did not come back. -/
  | transport (method target : String) (fault : TransportFault)
  | escaped (fault : TransportFault)
  | refused (refusal : Refusal)
  /-- A status of 400 or more with an explanation that is nested too deeply. -/
  | tooDeep (container : Json.Container)
  | undecodable (subject : Option String) (problems : List Problem) (body : List UInt8)
  | unreadable (fault : EncodingFault)

/-- The error that a reply with a status of 400 or more is. -/
def CallError.ofReply [Machine] (r : Reply) : CallError :=
  match Refusal.ofReply r with
  | .ok refusal => .refused refusal
  | .error container => .tooDeep container

def CallError.message : CallError → String
  | options fault => fault.message
  | transport method target fault => s!"Docker daemon request failed: {method} {target}: {fault.text}"
  | escaped fault => fault.text
  | refused refusal => refusal.message
  | tooDeep container => container.tooDeepText
  | undecodable (some subject) _ _ => s!"Unexpected response body for {subject}"
  | undecodable none _ _ => "Response body is not JSON"
  | unreadable fault => fault.message

end DaemonClient
