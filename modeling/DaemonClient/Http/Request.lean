import DaemonClient.Http.Percent
import DaemonClient.Record.Wire

/-! Requests to the daemon: method, path, query, body and headers, and the target that they make on the request
line. The path is taken as it is; only the query is encoded. -/

namespace DaemonClient

abbrev Header := String × String

/-- A request, ready to be sent. A query of null differs from an empty one only for who reads the record. -/
structure Request where
  method : String
  path : String
  query : Option (List (Value × Value)) := none
  body : Option (List UInt8) := none
  headers : List Header := []

/-- One side of a query pair: fixed octets as they are, any other value as the text that shows it. A value that cannot
be shown, for an integer of too many digits, is written out all the same: that rendering it fails is left out, so what
is sent for such a query is not told (`Client.Unforged.sends`). -/
def Value.percentEncoded : Value → List Char
  | .octets .fixed bs => Percent.encode bs
  | v => Percent.encodeText v.shown

def queryString (pairs : List (Value × Value)) : List Char :=
  Percent.joinPairs (pairs.map fun p => Percent.joinPair p.1.percentEncoded p.2.percentEncoded)

namespace Request

/-- A request from its parts; a body comes with its content type. -/
def build (method path : String) (query : Option (List (Value × Value))) (body : Option (List UInt8)) : Request :=
  ⟨method, path, query, body, if body.isSome then [("Content-Type", "application/json")] else []⟩

/-- The path below a version. A version that counts as false pins nothing. -/
def versionedPath (r : Request) (version : Value) : String :=
  if version.truthy then "/v" ++ version.shown ++ r.path else r.path

/-- The target on the request line. An empty query leaves no question mark. -/
def target (r : Request) (version : Value) : String :=
  match r.query with
  | none | some [] => r.versionedPath version
  | some pairs => r.versionedPath version ++ String.ofList ('?' :: queryString pairs)

/-- The headers that go out: the host, the request's own, and the length of a body. -/
def outgoingHeaders (r : Request) : List Header :=
  ("Host", "localhost") :: r.headers ++
    match r.body with
    | some bs => [("Content-Length", toString bs.length)]
    | none => []

end Request

/-- Query pairs of options as a request takes them. -/
def QueryPair.toRequest (pairs : List QueryPair) : List (Value × Value) := pairs.map fun p => (.text p.1, p.2)

end DaemonClient
