import DaemonClient.Client.Exchange

/-! The calls of the networks API, one request each. Options are encoded before anything is sent, the reply of a
successful call is decoded after its status is known, and calls about one network report its absence. -/

namespace DaemonClient

namespace Reply

def decodeRecord (kind : RecordKind) (r : Reply) : Except CallError Value :=
  (kind.read .characters r.body).mapError fun ps => .undecodable (some kind.name) ps r.body

def decodeList (kind : RecordKind) (r : Reply) : Except CallError Value :=
  (do Shape.check .characters (.list kind.shape) (kind.offered (← Check.document r.body))).mapError fun ps =>
    .undecodable (some "List") ps r.body

def decodeDocument (r : Reply) : Except CallError Value :=
  if r.body.isEmpty then .ok .null
  else (Check.document r.body).map Json.plain |>.mapError fun ps => .undecodable none ps r.body

end Reply

inductive Call
  | create (options : Value)
  | remove (network : String)
  | inspect (network : String) (options : Option Value)
  | list (options : Option Value)
  | connect (network : String) (options : Value)
  | disconnect (network : String) (options : Value)
  | prune (options : Option Value)
  | version
  | info
  | ping
  | close
  | send (request : Request)

inductive Answer
  | value (v : Value)
  | reply (r : Reply)

def optionalQuery (options : Option Value) : Except OptionsFault (Option (List (Value × Value))) :=
  match options with
  | none => .ok none
  | some o => (some ∘ QueryPair.toRequest) <$> o.toQuery

namespace Call

def networkPath (network : String) : String := "/networks/" ++ network

/-- The request of a call; closing makes none. -/
def request : Call → Except OptionsFault (Option Request)
  | create options => do
    let body ← options.bodyOctets
    return some (.build "POST" "/networks/create" none (some body))
  | remove network => return some (.build "DELETE" (networkPath network) none none)
  | inspect network options => do
    let query ← optionalQuery options
    return some (.build "GET" (networkPath network) query none)
  | list options => do
    let query ← optionalQuery options
    return some (.build "GET" "/networks" query none)
  | connect network options => do
    let body ← options.bodyOctets
    return some (.build "POST" (networkPath network ++ "/connect") none (some body))
  | disconnect network options => do
    let body ← options.bodyOctets
    return some (.build "POST" (networkPath network ++ "/disconnect") none (some body))
  | prune options => do
    let query ← optionalQuery options
    return some (.build "POST" "/networks/prune" query none)
  | version => return some (.build "GET" "/version" none none)
  | info => return some (.build "GET" "/info" none none)
  | ping => return some (.build "GET" "/_ping" none none)
  | close => return none
  | send request => return some request

def network? : Call → Option String
  | remove n | inspect n _ | connect n _ | disconnect n _ => some n
  | _ => none

def decode : Call → Reply → Except CallError Answer
  | create _, r => .value <$> r.decodeRecord .createReport
  | inspect _ _, r => .value <$> r.decodeRecord .networkReport
  | list _, r => .value <$> r.decodeList .listedNetwork
  | prune _, r => .value <$> r.decodeRecord .pruneReport
  | version, r | info, r => .value <$> r.decodeDocument
  | ping, r => .ok (.value (.text (Utf8.decodeLossy r.body)))
  | send _, r => .ok (.reply r)
  | remove _, _ | connect _ _, _ | disconnect _ _, _ | close, _ => .ok (.value .null)

/-- An error of a call about a network: a refusal with status 404 says that it is not there. -/
def reword (call : Call) (e : CallError) : CallError :=
  match call.network?, e with
  | some n, .refused r => .refused (r.about n)
  | _, e => e

/-- The line that tells of a created network: its name as text and the first twelve characters of its id. -/
def createdLine (options report : Value) : Except CallError LogLine := do
  let name ← (options.needed "name").mapError .options
  let name ← name.asText.mapError .unreadable
  let name ← name.told.mapError .unreadable
  let id := match report.field? "id" with
    | some (.text s) => s
    | _ => ""
  return ⟨.debug, s!"Network {name} created: {String.ofList (id.toList.take 12)}"⟩

/-- What a call does after its reply is decoded: a creation is logged. -/
def conclude (call : Call) (x : Exchange Answer) : Exchange Answer :=
  match call, x.outcome with
  | create options, .ok (.value report) =>
    match createdLine options report with
    | .ok line => { x with log := x.log ++ [line] }
    | .error e => { x with outcome := .error e }
  | _, _ => x

end Call

def Client.perform [Machine] (c : Client) (d : Daemon) (call : Call) : Exchange Answer :=
  match call.request with
  | .error f => .failed (.options f)
  | .ok none => ⟨.ok (.value .null), {}, []⟩
  | .ok (some r) => call.conclude (((c.send d r).andThen call.decode).reword call.reword)

end DaemonClient
