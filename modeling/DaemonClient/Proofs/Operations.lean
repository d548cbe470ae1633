import DaemonClient.Proofs.Query

/-! The table of operations of the networks API: for each call its method and path, how its options travel, and what
its reply says. A call makes the request of its row (`request_eq`) and reads its reply as the row says (`decode_eq`);
options that are well-typed fail to travel only for want of an encoding (`serialization_of_encode`). -/

namespace DaemonClient
open Outcome

/-- How the options of a call travel: not at all, as a body, or as a query if there are any. -/
inductive Payload
  | nothing
  | body (kind : RecordKind) (options : Value)
  | query (kind : RecordKind) (options : Option Value)

/-- What the reply to a call says: nothing, a record, or a list of records. -/
inductive ReplyShape
  | nothing
  | record (kind : RecordKind)
  | list (kind : RecordKind)

/-- A row of the table of operations. -/
structure Operation where
  method : String
  path : String
  payload : Payload
  reply : ReplyShape

/-- The row of a call of the networks API. -/
def Call.operation? : Call → Option Operation
  | create options => some ⟨"POST", "/networks/create", .body .createOptions options, .record .createReport⟩
  | remove network => some ⟨"DELETE", "/networks/" ++ network, .nothing, .nothing⟩
  | inspect network options =>
    some ⟨"GET", "/networks/" ++ network, .query .inspectOptions options, .record .networkReport⟩
  | list options => some ⟨"GET", "/networks", .query .listOptions options, .list .listedNetwork⟩
  | connect network options =>
    some ⟨"POST", "/networks/" ++ network ++ "/connect", .body .connectOptions options, .nothing⟩
  | disconnect network options =>
    some ⟨"POST", "/networks/" ++ network ++ "/disconnect", .body .disconnectOptions options, .nothing⟩
  | prune options => some ⟨"POST", "/networks/prune", .query .pruneOptions options, .record .pruneReport⟩
  | _ => none

/-! ### Options on their way -/

namespace Payload

def holds (form : TextForm) : Payload → Bool
  | nothing => true
  | body kind options => kind.shape.holds form options
  | query kind options => options.all (kind.shape.holds form)

/-- The query and the body that options make. -/
def encode : Payload → Except OptionsFault (Option (List (Value × Value)) × Option (List UInt8))
  | nothing => .ok (none, none)
  | body _ options => (fun bs => (none, some bs)) <$> options.bodyOctets
  | query _ options => (fun pairs => (pairs, none)) <$> optionalQuery options

/-- A query and a body carry options: a body holds the JSON text of a record, and a query of options the pairs that
say them. Without options there is neither. -/
def Carried : Payload → Option (List (Value × Value)) → Option (List UInt8) → Prop
  | nothing, sent, octets => sent = none ∧ octets = none
  | body _ options, sent, octets => sent = none ∧ ∃ s, options.toBody = .ok s ∧ octets = some (Utf8.encode s)
  | query _ none, sent, octets => sent = none ∧ octets = none
  | query kind (some options), sent, octets =>
    octets = none ∧ ∃ pairs, sent = some (textPairs pairs) ∧
      Percent.readPairs (queryString (textPairs pairs)) = some pairs ∧ QueryRead kind options pairs

end Payload

namespace Call

variable {call : Call} {op : Operation}

theorem request_eq (hop : call.operation? = some op) :
    call.request = (fun e => some (.build op.method op.path e.1 e.2)) <$> op.payload.encode := by
  have hbody (method path : String) (options : Value) :
      (do let body ← options.bodyOctets; return some (Request.build method path none (some body)) :
        Except OptionsFault (Option Request)) =
      (fun e => some (.build method path e.1 e.2)) <$> (Payload.body .createOptions options).encode := by
    rw [Payload.encode]
    cases options.bodyOctets <;> rfl
  have hquery (method path : String) (options : Option Value) :
      (do let query ← optionalQuery options; return some (Request.build method path query none) :
        Except OptionsFault (Option Request)) =
      (fun e => some (.build method path e.1 e.2)) <$> (Payload.query .listOptions options).encode := by
    rw [Payload.encode]
    cases optionalQuery options <;> rfl
  cases call <;> cases hop
  case create => exact hbody _ _ _
  case remove => rfl
  case inspect => exact hquery _ _ _
  case list => exact hquery _ _ _
  case connect => exact hbody _ _ _
  case disconnect => exact hbody _ _ _
  case prune => exact hquery _ _ _

/-- Only calls that send a query have options with one. -/
theorem hasQuery_of_operation (hop : call.operation? = some op) {kind : RecordKind} {options : Option Value}
    (h : op.payload = .query kind options) : kind.hasQuery = true := by
  cases call <;> cases hop <;> cases h <;> rfl

end Call

/-! ### Failures to travel -/

namespace Value

theorem serialization_of_bodyOctets {kind : RecordKind} {form : TextForm} {r : Value}
    (hr : kind.shape.holds form r = true) {fault : OptionsFault} (h : r.bodyOctets = .error fault) :
    ∃ f, fault = .serialization f := by
  rw [RecordKind.bodyOctets_of_holds hr] at h
  cases hbody : r.toBody with
  | ok s => rw [hbody] at h; cases h
  | error f =>
      rw [hbody] at h
      exact ⟨f, (Except.error.inj h).symm⟩

theorem serialization_of_toQuery {kind : RecordKind} (hkind : kind.hasQuery = true) {form : TextForm} {r : Value}
    (hr : kind.shape.holds form r = true) {fault : OptionsFault} (h : r.toQuery = .error fault) :
    ∃ f, fault = .serialization f := by
  have hfilters (hkind : kind = .listOptions ∨ kind = .pruneOptions) : ∃ f, fault = .serialization f := by
    obtain ⟨filters, -, -, hquery⟩ := toQuery_filters hkind hr
    rw [hquery] at h
    cases hserial : filters.filtersQuery with
    | ok pairs => rw [hserial] at h; cases h
    | error f =>
        rw [hserial] at h
        exact ⟨f, (Except.error.inj h).symm⟩
  cases kind <;> try cases hkind
  case inspectOptions =>
    obtain ⟨b, scope, -, -, -, hquery⟩ := toQuery_inspect hr
    rw [hquery] at h
    cases hserial : scope.serializeText with
    | ok t => rw [hserial] at h; cases h
    | error f =>
        rw [hserial] at h
        exact ⟨f, (Except.error.inj h).symm⟩
  case listOptions => exact hfilters (.inl rfl)
  case pruneOptions => exact hfilters (.inr rfl)

end Value

namespace Call

variable {call : Call} {op : Operation} {form : TextForm}

/-- Well-typed options fail to travel only for want of an encoding. -/
theorem serialization_of_encode (hop : call.operation? = some op) (htyped : op.payload.holds form = true)
    {fault : OptionsFault} (h : op.payload.encode = .error fault) : ∃ f, fault = .serialization f := by
  cases hpayload : op.payload with
  | nothing => rw [hpayload] at h; cases h
  | body kind options =>
      rw [hpayload] at h htyped
      rw [Payload.encode] at h
      cases hbody : options.bodyOctets with
      | ok bs => rw [hbody] at h; cases h
      | error f =>
          rw [hbody] at h
          obtain rfl : f = fault := Except.error.inj h
          exact Value.serialization_of_bodyOctets htyped hbody
  | query kind options =>
      have hkind := hasQuery_of_operation hop hpayload
      rw [hpayload] at h htyped
      rw [Payload.encode] at h
      cases options with
      | none => cases h
      | some o =>
          rw [optionalQuery] at h
          cases hquery : o.toQuery with
          | ok pairs => rw [hquery] at h; cases h
          | error f =>
              rw [hquery] at h
              obtain rfl : f = fault := Except.error.inj h
              exact Value.serialization_of_toQuery hkind htyped hquery

/-- What travels carries the options. -/
theorem carried_of_encode (hop : call.operation? = some op) (htyped : op.payload.holds form = true)
    {query : Option (List (Value × Value))} {body : Option (List UInt8)} (h : op.payload.encode = .ok (query, body)) :
    op.payload.Carried query body := by
  cases hpayload : op.payload with
  | nothing =>
      rw [hpayload] at h
      cases h
      exact ⟨rfl, rfl⟩
  | body kind options =>
      rw [hpayload] at h htyped
      obtain ⟨bs, hbs, heq⟩ := map_eq_ok.mp h
      obtain ⟨rfl, rfl⟩ := Prod.mk.inj heq
      rw [RecordKind.bodyOctets_of_holds htyped, mapError_eq_ok, map_eq_ok] at hbs
      obtain ⟨s, hs, rfl⟩ := hbs
      exact ⟨rfl, s, hs, rfl⟩
  | query kind options =>
      have hkind := hasQuery_of_operation hop hpayload
      rw [hpayload] at h htyped
      obtain ⟨pairs, hpairs, heq⟩ := map_eq_ok.mp h
      obtain ⟨rfl, rfl⟩ := Prod.mk.inj heq
      cases options with
      | none =>
          cases hpairs
          exact ⟨rfl, rfl⟩
      | some o =>
          obtain ⟨texts, rfl, hne, hread⟩ := query_read hkind htyped hpairs
          exact ⟨rfl, texts, rfl, Percent.readPairs_queryString hne, hread⟩

end Call

/-! ### Replies -/

namespace ReplyShape

/-- What a body of the shape says. -/
def read : ReplyShape → List UInt8 → Check Value
  | nothing, _ => .ok .null
  | record kind, bs => kind.read .characters bs
  | list kind, bs => do Shape.check .characters (.list kind.shape) (kind.offered (← Check.document bs))

/-- What an unreadable body was to be. -/
def subject : ReplyShape → Option String
  | nothing => none
  | record kind => some kind.name
  | list _ => some "List"

end ReplyShape

/-- A call reads its reply as its row says. -/
theorem Call.decode_eq {call : Call} {op : Operation} (hop : call.operation? = some op) (reply : Reply) :
    call.decode reply =
      (.value <$> op.reply.read reply.body).mapError fun ps => .undecodable op.reply.subject ps reply.body := by
  have hrecord (kind : RecordKind) : Answer.value <$> reply.decodeRecord kind =
      (.value <$> kind.read .characters reply.body).mapError fun ps => .undecodable (some kind.name) ps reply.body := by
    rw [Reply.decodeRecord]
    cases kind.read .characters reply.body <;> rfl
  cases call <;> cases hop
  case create => exact hrecord _
  case inspect => exact hrecord _
  case prune => exact hrecord _
  case list =>
    change Answer.value <$> (ReplyShape.read (.list .listedNetwork) reply.body).mapError _ = _
    cases ReplyShape.read (.list .listedNetwork) reply.body <;> rfl
  all_goals rfl

/-! ### The line about a creation -/

theorem Value.asText_of_decodedKey {form : TextForm} {v : Value} {s : String} (hv : form.holds v = true)
    (h : decodedKey v = text s) : v.asText = .ok (text s) := by
  rcases TextForm.text_or_octets hv with ⟨t, rfl⟩ | ⟨bs, rfl⟩
  · exact congrArg Except.ok h
  · change readOctets .fixed bs = text s at h
    rw [readOctets] at h
    split at h
    · rename_i t hdecode
      rw [asText, (decodeText_eq_ok.mpr (Utf8.decode_eq_ok.mp hdecode)), map_ok, h]
    · cases h

/-- Options that made a body can be told of. -/
theorem Call.createdLine_of_bodyOctets {form : TextForm} {options : Value}
    (hr : RecordKind.createOptions.shape.holds form options = true) {s : String} (h : options.toBody = .ok s)
    (report : Value) : ∃ line, createdLine options report = .ok line := by
  obtain ⟨name, hname, htext⟩ : ∃ x, options.field? "name" = some x ∧ Shape.text.holds form x = true :=
    RecordKind.field?_of_holds hr (d := Shape.required "name" "Name" .text) List.mem_cons_self
  rw [Shape.holds] at htext
  obtain ⟨t, ht⟩ := RecordKind.textual_of_toBody hr h
  have hlegible := Value.legible_of_textual RecordKind.createOptions.sound_shape hr ht
  rw [RecordKind.shape_eq] at hlegible
  obtain ⟨u, hread⟩ : ∃ u, Value.decodedKey name = .text u := by
    cases hlegible with
    | record hnames hattrs hfilled hfields =>
        have hmem := Named.mem_of_lookup hname
        have hd := hfields (Shape.required "name" "Name" .text) List.mem_cons_self name hmem
        cases hd with
        | text _ hread => exact ⟨_, hread⟩
  rw [createdLine, Value.needed_of_field? hname]
  exact ⟨_, by rw [mapError_ok, bind_ok, Value.asText_of_decodedKey htext hread]; rfl⟩

end DaemonClient
