import DaemonClient.Proofs.OwnErrors
import DaemonClient.Proofs.Requests
import DaemonClient.Proofs.Statuses

/-! Nothing that a caller passes makes another request of a call (`perform_unforged`). The name of a network and the
version stand in the target as they are, the options in the query go through an encoding. What the daemon reads of the
octets that go out is one request with the target as rendered, in printed characters; a name or a version with any other
character keeps the call from sending anything. -/

namespace DaemonClient

/-- What a version puts before a path: nothing if there is none or it is empty. -/
def versionPrefix : Option String → String
  | none => ""
  | some v => if v = "" then "" else "/v" ++ v

/-- What a query puts after a path: nothing if there are no pairs. -/
def querySuffix : Option (List (Value × Value)) → String
  | none => ""
  | some pairs => if pairs.isEmpty then "" else String.ofList ('?' :: queryString pairs)

/-- The target of a request to a pinned version. -/
def renderedTarget (version : Option String) (path : String) (query : Option (List (Value × Value))) : String :=
  versionPrefix version ++ path ++ querySuffix query

/-- A pinned version as clients hold it. -/
def versionValue (version : Option String) : Value := version.elim .null .text

theorem truthy_text {v : String} (h : v ≠ "") : (Value.text v).truthy = true := bne_iff_ne.mpr h

theorem pinned_versionValue (version : Option String) : pinned (versionValue version) = (version.getD "").toList := by
  cases version with
  | none => rfl
  | some v =>
      by_cases hv : v = ""
      · rw [hv]
        rfl
      · exact if_pos (truthy_text hv)

namespace Request

theorem versionedPath_eq (r : Request) (version : Option String) :
    r.versionedPath (versionValue version) = versionPrefix version ++ r.path := by
  cases version with
  | none => exact String.empty_append.symm
  | some v =>
      by_cases hv : v = ""
      · rw [hv]
        exact String.empty_append.symm
      · rw [versionPrefix, if_neg hv]
        exact if_pos (truthy_text hv)

theorem target_eq (r : Request) (version : Option String) :
    r.target (versionValue version) = renderedTarget version r.path r.query := by
  rw [target, renderedTarget, versionedPath_eq]
  split
  · rename_i hquery
    rw [hquery]
    exact String.append_empty.symm
  · rename_i hquery
    rw [hquery]
    exact String.append_empty.symm
  · rename_i pairs hne hquery
    rw [hquery, querySuffix, if_neg]
    simpa using hne

theorem isPrinted_of_sendable {c : Char} (hbreaks : breaksTarget c = false) (hwide : isWide c = false) :
    isPrinted c = true := by
  simp only [breaksTarget, Bool.or_eq_false_iff, decide_eq_false_iff_not, beq_eq_false_iff_ne, ne_eq,
    UInt32.le_iff_toNat_le, ← UInt32.toNat_inj, UInt32.reduceToNat] at hbreaks
  simp only [isWide, decide_eq_false_iff_not, UInt32.le_iff_toNat_le, UInt32.reduceToNat] at hwide
  simp only [isPrinted, Char.toNat, Bool.and_eq_true, decide_eq_true_eq]
  omega

/-- A line without fault has a target of printed characters. -/
theorem lineFault?_eq_none_iff {method target : String} (hmethod : method.toList.all isPrinted = true) :
    lineFault? method target = none ↔ target.toList.all isPrinted = true := by
  refine ⟨fun hnone => ?_, lineFault?_eq_none hmethod⟩
  have hbreaks : target.toList.any breaksTarget = false := by
    by_contra h
    rw [Bool.not_eq_false, ← any_sentTarget target fun _ => breaksTarget_of_isPrinted] at h
    obtain ⟨c, hfault⟩ := lineFault?_of_breaks hmethod h
    rw [hnone] at hfault
    cases hfault
  have hwide : target.toList.any isWide = false := by
    by_contra h
    rw [Bool.not_eq_false, ← any_sentTarget target fun _ => isWide_of_isPrinted] at h
    rw [← any_sentTarget target fun _ => breaksTarget_of_isPrinted] at hbreaks
    obtain ⟨first, start, length, hfault⟩ := lineFault?_of_wide hmethod hbreaks h
    rw [hnone] at hfault
    cases hfault
  refine List.all_eq_true.mpr fun c hc => ?_
  exact isPrinted_of_sendable (by simpa using List.any_eq_false.mp hbreaks c hc)
    (by simpa using List.any_eq_false.mp hwide c hc)

end Request

/-! ### What a daemon on a connection sees -/

namespace Daemon

variable (octets : List UInt8) (failure : Option (Stage × TransportFault)) {r : Request} {target : String}

/-- Octets go out only for a line without fault, and they are those of the request. -/
theorem sent_of_answer [Machine] {bs : List UInt8} (h : ((speaking octets failure).answer r target).2.sent = some bs) :
    Request.lineFault? r.method target = none ∧ bs = r.octets target := by
  refine ⟨?_, ((speaking octets failure).seesOnly_answer r target).sent bs h⟩
  cases hline : Request.lineFault? r.method target with
  | none => rfl
  | some f =>
      simp only [answer, hline] at h
      cases h

theorem sent_of_line [Machine] (h : Request.lineFault? r.method target = none) :
    ((speaking octets none).answer r target).2.sent = some (r.octets target) := by
  simp only [answer, h]
  rfl

/-- A line with a fault is not sent, nor is the daemon dialled. -/
theorem answer_of_fault [Machine] {f : TransportFault} (h : Request.lineFault? r.method target = some f) :
    (speaking octets failure).answer r target = (.error f, ⟨none, false, none, 1⟩) := by
  simp only [answer, h]

end Daemon

namespace Call

/-- What a call does after its reply is decoded changes nothing of what was seen. -/
theorem seen_conclude (call : Call) (x : Exchange Answer) : (call.conclude x).seen = x.seen := by
  unfold conclude
  split
  · split <;> rfl
  · rfl

theorem request_of_encode {call : Call} {op : Operation} (hop : call.operation? = some op)
    {query : Option (List (Value × Value))} {body : Option (List UInt8)} (h : op.payload.encode = .ok (query, body)) :
    call.request = .ok (some (.build op.method op.path query body)) := by
  rw [request_eq hop, h]
  rfl

end Call

namespace Client

variable {c : Client} {d : Daemon} {call : Call} {r : Request}

theorem seen_perform [Machine] (hrequest : call.request = .ok (some r)) :
    (c.perform d call).seen = {} ∨ (c.perform d call).seen = (d.answer r (r.target c.version)).2 := by
  cases hhost : c.address.hostFault? with
  | none =>
      rw [perform_of_request hhost hrequest, Call.seen_conclude]
      exact .inr rfl
  | some f =>
      refine .inl ?_
      rw [perform, hrequest]
      simp only [Call.seen_conclude, Exchange.reword, Exchange.andThen, send, hhost]

/-- A call fails where its request does. -/
theorem outcome_of_fault [Machine] (hrequest : call.request = .ok (some r)) {f : TransportFault}
    (hanswer : (d.answer r (r.target c.version)).1 = .error f) : ∃ e, (c.perform d call).outcome = .error e := by
  cases hhost : c.address.hostFault? with
  | none =>
      rw [perform_of_request hhost hrequest, hanswer, Call.conclude_of_error rfl]
      exact ⟨_, rfl⟩
  | some f =>
      rw [perform, hrequest]
      simp only [send, hhost]
      rw [Call.conclude_of_error rfl]
      exact ⟨_, rfl⟩

/-- Only the request of a call goes out, and it does if the daemon is in reach. -/
structure Unforged (call : Call) (op : Operation) (version : Option String) (reached : Prop) (x : Exchange Answer) :
    Prop where
  /-- What goes out is read as one request and nothing more, with the target as rendered, in printed characters. -/
  single : ∀ {bs}, x.seen.sent = some bs → ∃ query body, op.payload.encode = .ok (query, body) ∧
    (renderedTarget version op.path query).toList.all isPrinted = true ∧
    Request.receiveAll bs.length bs = some [⟨op.method, renderedTarget version op.path query,
      (Request.build op.method op.path query body).sentHeaders, body.getD []⟩]
  /-- A target of printed characters goes out if what the query holds can be shown. -/
  sends : reached → ∀ {query body}, op.payload.encode = .ok (query, body) →
    (∀ p ∈ query.getD [], p.1.hasLiteral = true ∧ p.2.hasLiteral = true) →
    (renderedTarget version op.path query).toList.all isPrinted = true → ∃ bs, x.seen.sent = some bs
  /-- A target with any other character fails the call, and the daemon is not even dialled. -/
  refused : ∀ {query body}, op.payload.encode = .ok (query, body) →
    (renderedTarget version op.path query).toList.all isPrinted = false →
    (∃ e, x.outcome = .error e) ∧ x.seen.dialled = false ∧ x.seen.sent = none
  /-- Whatever the options hold, their query is unreserved characters and the signs of a query. -/
  query : ∀ {pairs body}, op.payload.encode = .ok (some pairs, body) →
    (queryString pairs).all Percent.isQueryChar = true
  /-- Only the version and the name of the network can have a character that is not printed. -/
  blamed : ∀ query, (renderedTarget version op.path query).toList.all isPrinted =
    ((version.getD "").toList.all isPrinted && (call.network?.getD "").toList.all isPrinted)

theorem all_renderedTarget {op : Operation} (hop : call.operation? = some op) (version : Option String)
    (query : Option (List (Value × Value))) : (renderedTarget version op.path query).toList.all isPrinted =
      ((version.getD "").toList.all isPrinted && (call.network?.getD "").toList.all isPrinted) := by
  have hp : ∀ ch, isPrinted ch = true → (!isPrinted ch) = false := fun ch h => by rw [h]; rfl
  have hany := Request.any_target (.build op.method op.path query none) (versionValue version) hp
  rw [Request.target_eq, pinned_versionValue, show (Request.build op.method op.path query none).path = op.path from rfl,
    Call.any_path hop hp] at hany
  simp only [List.all_eq_not_any_not]
  rw [← Bool.not_or]
  exact congrArg (!·) hany

/-- The path of a call begins with a slash, so its target is not empty. -/
theorem renderedTarget_ne {op : Operation} (hop : call.operation? = some op) (version : Option String)
    (query : Option (List (Value × Value))) : renderedTarget version op.path query ≠ "" := by
  have hpath : op.path.toList ≠ [] := by
    cases call <;> cases hop <;> simp
  intro h
  have hlist := congrArg String.toList h
  rw [renderedTarget, String.toList_append, String.toList_append] at hlist
  simp [hpath] at hlist

/-- What goes out for a call is the request that its options make. -/
theorem encode_of_sent [Machine] {op : Operation} (hop : call.operation? = some op) {c : Client} {d : Daemon}
    {bs : List UInt8} (hsent : (c.perform d call).seen.sent = some bs) :
    ∃ query body, op.payload.encode = .ok (query, body) ∧
      (d.answer (.build op.method op.path query body)
        ((Request.build op.method op.path query body).target c.version)).2.sent = some bs := by
  cases hencode : op.payload.encode with
  | error fault =>
      have hrequest : call.request = .error fault := by
        rw [Call.request_eq hop, hencode]
        rfl
      rw [perform, hrequest] at hsent
      cases hsent
  | ok sent =>
      obtain ⟨query, body⟩ := sent
      rcases seen_perform (d := d) (c := c) (Call.request_of_encode hop hencode) with hseen | hseen
      · rw [hseen] at hsent
        cases hsent
      · rw [hseen] at hsent
        exact ⟨query, body, rfl, hsent⟩

/-- **No name, version or options make another request of a call.** -/
theorem perform_unforged [Machine] {op : Operation} (hop : call.operation? = some op) (address : Address)
    (timeout : Value) (version : Option String) (octets : List UInt8) (failure : Option (Stage × TransportFault)) :
    Unforged call op version (address.hostFault? = none ∧ failure = none)
      (perform ⟨address, timeout, versionValue version⟩ (.speaking octets failure) call) := by
  have hmethod := Call.printed_of_operation hop
  have htarget (query : Option (List (Value × Value))) (body : Option (List UInt8)) :
      (Request.build op.method op.path query body).target (versionValue version) =
        renderedTarget version op.path query := Request.target_eq _ version
  constructor
  case single =>
    intro bs hsent
    obtain ⟨query, body, hencode, hsent⟩ := encode_of_sent hop hsent
    obtain ⟨hline, rfl⟩ := Daemon.sent_of_answer octets failure hsent
    rw [htarget] at hline ⊢
    have hprinted := (Request.lineFault?_eq_none_iff hmethod).mp hline
    exact ⟨query, body, hencode, hprinted, Request.receiveAll_octets hmethod hprinted
      (renderedTarget_ne hop version query) (Request.isPlainHeader_sentHeaders ..)
      (Request.bodyLength?_sentHeaders ..)⟩
  case sends =>
    rintro ⟨hhost, rfl⟩ query body hencode - hprinted
    have hline := (Request.lineFault?_eq_none_iff hmethod).mpr hprinted
    rw [perform_of_request hhost (Call.request_of_encode hop hencode), Call.seen_conclude]
    exact ⟨_, Daemon.sent_of_line octets (htarget query body ▸ hline)⟩
  case refused =>
    intro query body hencode hunprinted
    have hrequest := Call.request_of_encode hop hencode
    obtain ⟨f, hline⟩ : ∃ f, Request.lineFault? op.method (renderedTarget version op.path query) = some f := by
      rw [← Option.ne_none_iff_exists', ne_eq, Request.lineFault?_eq_none_iff hmethod, hunprinted]
      exact Bool.false_ne_true
    have hanswer := Daemon.answer_of_fault octets failure (r := .build op.method op.path query body) hline
    rw [← htarget query body] at hanswer
    refine ⟨outcome_of_fault hrequest (congrArg Prod.fst hanswer), ?_⟩
    rcases seen_perform hrequest with hseen | hseen
    · rw [hseen]
      exact ⟨rfl, rfl⟩
    · rw [hseen, congrArg Prod.snd hanswer]
      exact ⟨rfl, rfl⟩
  case query =>
    intro pairs body _
    exact List.all_eq_true.mpr fun ch hch => isQueryChar_of_mem_queryString hch
  case blamed => exact all_renderedTarget hop version

/-- The removal of a network whose name has the end of a request line and a header in it. -/
def splittingRemoval : Call := .remove "n HTTP/1.1\r\nX-Role: owner"

theorem perform_unforged_splittingRemoval :
    let op : Operation := ⟨"DELETE", "/networks/n HTTP/1.1\r\nX-Role: owner", .nothing, .nothing⟩
    let address : Address := .socket "/var/run/docker.sock"
    let failure : Option (Stage × TransportFault) := none
    let x := perform ⟨address, .int 60, versionValue (some "1.41")⟩ (.speaking [] failure) splittingRemoval
    splittingRemoval.operation? = some op ∧
      Unforged splittingRemoval op (some "1.41") (address.hostFault? = none ∧ failure = none) x ∧
      (∃ e, x.outcome = .error e) ∧ x.seen.sent = none := by
  intro op address failure x
  have hunforged : Unforged splittingRemoval op (some "1.41") (address.hostFault? = none ∧ failure = none) x :=
    perform_unforged rfl address _ (some "1.41") [] failure
  have hencode : op.payload.encode = .ok (none, none) := rfl
  obtain ⟨herror, -, hsent⟩ := hunforged.refused hencode (by decide)
  exact ⟨rfl, hunforged, herror, hsent⟩

end Client
end DaemonClient
