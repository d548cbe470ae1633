import DaemonClient.Proofs.Endings

/-! Which errors leave a call about one network (`lookup_leaves`). The name of the network stands in the target as it
is, so every text reaches the request line. A name with a blank or a control character is refused there as a connection
is, and the call ends with an error of the client's own. A name with neither that is not ASCII is refused by the
encoding of the line, and that fault leaves the call as it is. So do two faults that come with a reply: a body that is
told to be longer than memory holds, and a refusal whose explanation is nested too deeply. -/

namespace DaemonClient
open Outcome

/-- The errors that are the client's own: options without an encoding, failed transport, a refusal, and a reply that is
not what the call returns. -/
def CallError.isOwn : CallError → Bool
  | options (.serialization _) => true
  | options (.absent ..) => false
  | transport .. => true
  | escaped _ => false
  | refused _ => true
  | tooDeep _ => false
  | undecodable .. => true
  | unreadable _ => false

/-! ### Targets -/

namespace Percent

theorem isPrinted_of_isUnreserved {c : Char} (h : isUnreserved c = true) : isPrinted c = true := by
  simp only [isUnreserved, Bool.or_eq_true, beq_iff_eq] at h
  rcases h with (((h | rfl) | rfl) | rfl) | rfl
  · -- a letter of either case or a digit, by its code
    have hletter : (c.isUpper = true ∨ c.isLower = true) ∨ c.isDigit = true :=
      (Bool.or_eq_true _ _ ▸ h).imp_left fun h => Bool.or_eq_true _ _ ▸ h
    have hbounds : 48 ≤ c.toNat ∧ c.toNat ≤ 122 := by
      rcases hletter with (h | h) | h
      · have hupper : 65 ≤ c.toNat ∧ c.toNat ≤ 90 := of_decide_eq_true h
        omega
      · have hlower : (97 ≤ c.toNat) ∧ c.toNat ≤ 122 :=
          (Bool.and_eq_true _ _ ▸ h).imp of_decide_eq_true of_decide_eq_true
        omega
      · have hdigit : 48 ≤ c.toNat ∧ c.toNat ≤ 57 :=
          (Bool.and_eq_true _ _ ▸ h).imp of_decide_eq_true of_decide_eq_true
        omega
    simp only [isPrinted, Bool.and_eq_true, decide_eq_true_eq]
    omega
  all_goals decide

/-- Characters that a query string may have: what is unreserved, and the signs of escapes, of pairs and between
pairs. -/
def isQueryChar (c : Char) : Bool := isUnreserved c || c == '%' || c == '=' || c == '&'

theorem isPrinted_of_isQueryChar {c : Char} (h : isQueryChar c = true) : isPrinted c = true := by
  simp only [isQueryChar, Bool.or_eq_true, beq_iff_eq] at h
  rcases h with ((h | rfl) | rfl) | rfl
  · exact isPrinted_of_isUnreserved h
  all_goals decide

theorem isQueryChar_hexUpper {n : Nat} (h : n < 16) : isQueryChar (hexUpper n) = true := by
  have hall : ∀ n < 16, isQueryChar (hexUpper n) = true := by decide
  exact hall n h

theorem isQueryChar_of_mem_encode {bs : List UInt8} {c : Char} (h : c ∈ encode bs) : isQueryChar c = true := by
  rw [encode, List.mem_flatMap] at h
  obtain ⟨b, -, hc⟩ := h
  have hb := b.toNat_lt
  simp only [encodeOctet] at hc
  split at hc
  · rename_i hfree
    obtain rfl := List.mem_singleton.mp hc
    rw [isQueryChar, hfree]
    rfl
  · simp only [List.mem_cons, List.not_mem_nil, or_false] at hc
    rcases hc with rfl | rfl | rfl
    · decide
    · exact isQueryChar_hexUpper (by omega)
    · exact isQueryChar_hexUpper (by omega)

theorem isQueryChar_of_mem_joinPairs {parts : List (List Char)} (h : ∀ p ∈ parts, ∀ c ∈ p, isQueryChar c = true)
    {c : Char} (hc : c ∈ joinPairs parts) : isQueryChar c = true := by
  induction parts with
  | nil => cases hc
  | cons p parts ih =>
      obtain ⟨hp, hparts⟩ := List.forall_mem_cons.mp h
      cases parts with
      | nil => exact hp c hc
      | cons q parts =>
          rw [joinPairs, List.mem_append, List.mem_cons] at hc
          · rcases hc with hc | rfl | hc
            · exact hp c hc
            · decide
            · exact ih hparts hc
          · exact List.cons_ne_nil _ _

end Percent

/-- A query has only characters of a query, whatever its pairs hold. -/
theorem isQueryChar_of_mem_queryString {pairs : List (Value × Value)} {c : Char} (h : c ∈ queryString pairs) :
    Percent.isQueryChar c = true := by
  have hside (v : Value) {d : Char} (hd : d ∈ v.percentEncoded) : Percent.isQueryChar d = true := by
    unfold Value.percentEncoded at hd
    split at hd
    · exact Percent.isQueryChar_of_mem_encode hd
    · exact Percent.isQueryChar_of_mem_encode hd
  refine Percent.isQueryChar_of_mem_joinPairs (fun part hpart d hd => ?_) h
  obtain ⟨p, -, rfl⟩ := List.mem_map.mp hpart
  rw [Percent.joinPair, List.mem_append, List.mem_cons] at hd
  rcases hd with hd | rfl | hd
  · exact hside p.1 hd
  · decide
  · exact hside p.2 hd

/-- What a version puts into a target. -/
def pinned (version : Value) : List Char := if version.truthy then version.shown.toList else []

/-- Characters of a kind that is not printed stand in a target only where they stand in the version or in the path. -/
theorem Request.any_target (r : Request) (version : Value) {p : Char → Bool}
    (hp : ∀ c, isPrinted c = true → p c = false) :
    (r.target version).toList.any p = ((pinned version).any p || r.path.toList.any p) := by
  have hpath : (r.versionedPath version).toList.any p = ((pinned version).any p || r.path.toList.any p) := by
    have hprefix : "/v".toList.any p = false := by
      simp [List.any_cons, hp '/' (by decide), hp 'v' (by decide)]
    rw [versionedPath, pinned]
    split
    · rw [String.toList_append, String.toList_append, List.any_append, List.any_append, hprefix, Bool.false_or]
    · rw [List.any_nil, Bool.false_or]
  have hquery (pairs : List (Value × Value)) : ('?' :: queryString pairs).any p = false := by
    rw [List.any_eq_false]
    intro c hc
    rcases List.mem_cons.mp hc with rfl | hc
    · simp [hp '?' (by decide)]
    · simp [hp c (Percent.isPrinted_of_isQueryChar (isQueryChar_of_mem_queryString hc))]
  rw [target]
  split
  · exact hpath
  · exact hpath
  · rw [String.toList_append, List.any_append, String.toList_ofList, hquery, Bool.or_false, hpath]

theorem Request.any_sentTarget (target : String) {p : Char → Bool} (hp : ∀ c, isPrinted c = true → p c = false) :
    (sentTarget target).toList.any p = target.toList.any p := by
  rw [sentTarget]
  split
  · rename_i h
    rw [eq_of_beq h]
    simp [hp '/' (by decide)]
  · rfl

/-- In the path of a call only the name of the network can be other than printed characters. -/
theorem Call.any_path {call : Call} {op : Operation} (hop : call.operation? = some op) {p : Char → Bool}
    (hp : ∀ c, isPrinted c = true → p c = false) :
    op.path.toList.any p = (call.network?.getD "").toList.any p := by
  have hfixed (s : String) (hs : s.toList.all isPrinted = true) : s.toList.any p = false :=
    List.any_eq_false.mpr fun c hc => by simp [hp c (List.all_eq_true.mp hs c hc)]
  have hbegin : "/networks/".toList.any p = false := hfixed _ (by decide)
  have hconnect : "/connect".toList.any p = false := hfixed _ (by decide)
  have hdisconnect : "/disconnect".toList.any p = false := hfixed _ (by decide)
  cases call <;> cases hop
  case create => exact hfixed "/networks/create" (by decide)
  case list => exact hfixed "/networks" (by decide)
  case prune => exact hfixed "/networks/prune" (by decide)
  all_goals
    simp only [network?, Option.getD_some, String.toList_append, List.any_append, hbegin, hconnect, hdisconnect,
      Bool.false_or, Bool.or_false]

/-- In the target that a call about one network sends only the version and the name of the network can be other than
printed characters. -/
theorem Call.any_sentTarget {call : Call} {op : Operation} (hop : call.operation? = some op) {network : String}
    (hnetwork : call.network? = some network) (query : Option (List (Value × Value))) (body : Option (List UInt8))
    (version : Value) {p : Char → Bool} (hp : ∀ c, isPrinted c = true → p c = false) :
    (Request.sentTarget ((Request.build op.method op.path query body).target version)).toList.any p =
      ((pinned version).any p || network.toList.any p) := by
  have hpath := any_path hop hp
  rw [hnetwork] at hpath
  rw [Request.any_sentTarget _ hp, Request.any_target _ _ hp]
  exact congrArg (_ || ·) hpath

/-! ### Errors that are not the client's own -/

/-- The name of a network cannot be sent: nothing in the target breaks a request line, and the name is not ASCII. -/
structure Unsendable (c : Client) (d : Daemon) (op : Operation) (network : String) : Prop where
  encoded : ∃ sent, op.payload.encode = .ok sent
  looked : d.looksAtLine = true
  unbroken : (pinned c.version).any breaksTarget = false ∧ network.toList.any breaksTarget = false
  wide : network.toList.any isWide = true

/-- The reply tells of a body longer than memory holds. -/
def Overstated [Machine] (c : Client) (d : Daemon) (op : Operation) (x : Exchange Answer) : Prop :=
  ∃ r, Exchanged c d op x r (.error .oversizedLength)

/-- The reply refuses, with an explanation that is nested more deeply than a reader follows. -/
def Unexplained [Machine] (c : Client) (d : Daemon) (op : Operation) (x : Exchange Answer) : Prop :=
  ∃ r reply container, Exchanged c d op x r (.ok reply) ∧ 400 ≤ reply.status ∧
    Json.parseText (Utf8.decodeLossy reply.body) = .error (.tooDeep container)

/-- An exchange that ends in one of the ways, and not for want of an explanation, ends well or with an error of the
client's own. -/
theorem Ends.own [Machine] {c : Client} {d : Daemon} {call : Call} {op : Operation} {x : Exchange Answer} {e : Ending}
    (h : Ends c d call op x e) (he : e ≠ .unexplained) {error : CallError} (herror : x.outcome = .error error) :
    error.isOwn = true := by
  have hshown := h.ofOutcome
  cases e with
  | unexplained => exact absurd rfl he
  | unencoded =>
      obtain ⟨f, -, -, houtcome⟩ := h
      obtain rfl := Except.error.inj (herror.symm.trans houtcome)
      rfl
  | _ =>
      rw [herror] at hshown
      cases error with
      | options fault => cases hshown
      | escaped => cases hshown
      | tooDeep => cases hshown
      | unreadable => cases hshown
      | _ => rfl

namespace Client

variable {c : Client} {d : Daemon} {call : Call} {op : Operation} {form : TextForm} {network : String}

/-- What came back decides the outcome. -/
theorem outcome_of_exchanged [Machine] (hhost : c.address.hostFault? = none) (hop : call.operation? = some op)
    (htyped : op.payload.holds form = true) {r : Request} {came : Except TransportFault Reply}
    (hx : Exchanged c d op (c.perform d call) r came) : (c.perform d call).outcome = c.received call r came := by
  rw [(perform_of_encode hhost hop htyped hx.encoded hx.built).1, hx.came]

/-- A fault that is not one of the transport leaves a call as it is. -/
theorem received_escaped [Machine] (c : Client) (call : Call) (r : Request) {f : TransportFault}
    (hf : f.isTransport = false) : c.received call r (.error f) = .error (.escaped f) := by
  rw [received, wrapFault, if_neg (by simp [hf]), Call.reword_escaped]

/-- Where the name of a network can be sent, the request line has no fault but those of a connection. -/
theorem unsendable_of_lineFault (hversion : (pinned c.version).any isWide = false) (hop : call.operation? = some op)
    (hnetwork : call.network? = some network) {query : Option (List (Value × Value))} {body : Option (List UInt8)}
    (hencode : op.payload.encode = .ok (query, body)) (hd : d.looksAtLine = true) {f : TransportFault}
    (hf : f.isTransport = false)
    (hline : Request.lineFault? op.method ((Request.build op.method op.path query body).target c.version) = some f) :
    Unsendable c d op network := by
  have hmethod := Call.printed_of_operation hop
  have hbreaks := Call.any_sentTarget hop hnetwork query body c.version fun _ => Request.breaksTarget_of_isPrinted
  have hwide := Call.any_sentTarget hop hnetwork query body c.version fun _ => Request.isWide_of_isPrinted
  rw [hversion, Bool.false_or] at hwide
  cases hb : ((pinned c.version).any breaksTarget || network.toList.any breaksTarget) with
  | true =>
      obtain ⟨ch, hfault⟩ := Request.lineFault?_of_breaks hmethod (hbreaks.trans hb)
      obtain rfl := Option.some.inj (hfault.symm.trans hline)
      cases hf
  | false =>
      cases hw : network.toList.any isWide with
      | true => exact ⟨⟨_, hencode⟩, hd, (Bool.or_eq_false_iff.mp hb), hw⟩
      | false =>
          rw [Request.lineFault?_of_narrow hmethod (hbreaks.trans hb) (hwide.trans hw)] at hline
          cases hline

/-- A name that cannot be sent leaves the call with the fault of the request line. -/
theorem outcome_of_unsendable [Machine] (hhost : c.address.hostFault? = none)
    (hop : call.operation? = some op) (hnetwork : call.network? = some network) (htyped : op.payload.holds form = true)
    (h : Unsendable c d op network) :
    ∃ first start length, (c.perform d call).outcome = .error (.escaped (.wideRequestLine first start length)) := by
  obtain ⟨⟨query, body⟩, hencode⟩ := h.encoded
  have hx := exchanged_of_encode (d := d) hhost hop htyped hencode rfl
  have hbreaks := Call.any_sentTarget hop hnetwork query body c.version fun _ => Request.breaksTarget_of_isPrinted
  have hwide := Call.any_sentTarget hop hnetwork query body c.version fun _ => Request.isWide_of_isPrinted
  rw [h.unbroken.1, h.unbroken.2] at hbreaks
  rw [h.wide, Bool.or_true] at hwide
  obtain ⟨first, start, length, hline⟩ := Request.lineFault?_of_wide (Call.printed_of_operation hop) hbreaks hwide
  refine ⟨first, start, length, ?_⟩
  rw [outcome_of_exchanged hhost hop htyped hx, Daemon.answer_of_lineFault? h.looked hline]
  exact received_escaped c call _ rfl

theorem outcome_of_overstated [Machine] (hhost : c.address.hostFault? = none) (hop : call.operation? = some op)
    (htyped : op.payload.holds form = true) (h : Overstated c d op (c.perform d call)) :
    (c.perform d call).outcome = .error (.escaped .oversizedLength) := by
  obtain ⟨r, hx⟩ := h
  rw [outcome_of_exchanged hhost hop htyped hx]
  exact received_escaped c call r rfl

theorem outcome_of_unexplained [Machine] (hhost : c.address.hostFault? = none) (hop : call.operation? = some op)
    (htyped : op.payload.holds form = true) (h : Unexplained c d op (c.perform d call)) :
    ∃ container, (c.perform d call).outcome = .error (.tooDeep container) := by
  obtain ⟨r, reply, container, hx, hstatus, hdeep⟩ := h
  obtain ⟨e, he⟩ := ends_of_received hop hx (outcome_of_exchanged hhost hop htyped hx) fun _ h => nomatch h
  obtain rfl := he.eq_unexplained hx hstatus hdeep
  obtain ⟨r, reply, container, -, -, -, houtcome⟩ := he
  exact ⟨container, houtcome⟩

/-- An error that is not the client's own comes of one of the three. -/
theorem gap_of_not_own [Machine] (hhost : c.address.hostFault? = none)
    (hversion : (pinned c.version).any isWide = false) (hop : call.operation? = some op)
    (hnetwork : call.network? = some network) (htyped : op.payload.holds form = true) (hd : d.failsAsTransport = true)
    {e : CallError} (houtcome : (c.perform d call).outcome = .error e) (he : e.isOwn = false) :
    Unsendable c d op network ∨ Overstated c d op (c.perform d call) ∨ Unexplained c d op (c.perform d call) := by
  have hnot {ending : Ending} (h : Ends c d call op (c.perform d call) ending) : ending = .unexplained := by
    by_contra hne
    rw [h.own hne houtcome] at he
    cases he
  cases hencode : op.payload.encode with
  | error fault =>
      -- nothing went out, so nothing came back that could be unexplained
      have hfails : ∃ ending, Ends c d call op (c.perform d call) ending := by
        refine ends_of_isTransport hhost hop htyped fun r f hrequest _ _ => ?_
        rw [Call.request_eq hop, hencode] at hrequest
        cases hrequest
      obtain ⟨ending, hends⟩ := hfails
      obtain rfl := hnot hends
      obtain ⟨r, reply, container, hx, -⟩ := hends
      rw [hx.encoded] at hencode
      cases hencode
  | ok sent =>
      obtain ⟨query, body⟩ := sent
      obtain ⟨r, hr⟩ : ∃ r, r = Request.build op.method op.path query body := ⟨_, rfl⟩
      have hx := exchanged_of_encode (d := d) hhost hop htyped hencode hr
      have hreceived := outcome_of_exchanged hhost hop htyped hx
      -- only a fault that is not one of the transport keeps the call from ending in one of the ways
      by_cases hfault : ∀ f, (d.answer r (r.target c.version)).1 = .error f → f.isTransport = true
      · obtain ⟨ending, hends⟩ := ends_of_received hop hx hreceived hfault
        obtain rfl := hnot hends
        obtain ⟨r, reply, container, hx, hstatus, hdeep, -⟩ := hends
        exact .inr (.inr ⟨r, reply, container, hx, hstatus, hdeep⟩)
      · simp only [not_forall] at hfault
        obtain ⟨f, hf, hescapes⟩ := hfault
        rcases Daemon.fault_of_answer hd hf with htransport | ⟨hlooks, hline⟩ | ⟨rfl, -⟩
        · exact absurd htransport hescapes
        · subst hr
          exact .inl (unsendable_of_lineFault hversion hop hnetwork hencode hlooks (by simpa using hescapes) hline)
        · rw [hf] at hx
          exact .inr (.inl ⟨_, hx⟩)

/-- **A call about one network ends with an error that is not the client's own in three ways and no other**: the name
of the network cannot be sent, the reply tells of a body longer than memory holds, or it refuses with an explanation
that is nested too deeply. What leaves the call is then the fault of the request line, of the length, or of the
depth. -/
theorem lookup_leaves [Machine] (hhost : c.address.hostFault? = none) (hversion : (pinned c.version).any isWide = false)
    (hop : call.operation? = some op) (hnetwork : call.network? = some network)
    (htyped : op.payload.holds form = true) (hd : d.failsAsTransport = true) :
    ((∃ e, (c.perform d call).outcome = .error e ∧ e.isOwn = false) ↔
      Unsendable c d op network ∨ Overstated c d op (c.perform d call) ∨ Unexplained c d op (c.perform d call)) ∧
    (Unsendable c d op network → ∃ first start length,
      (c.perform d call).outcome = .error (.escaped (.wideRequestLine first start length))) ∧
    (Overstated c d op (c.perform d call) → (c.perform d call).outcome = .error (.escaped .oversizedLength)) ∧
    (Unexplained c d op (c.perform d call) → ∃ container, (c.perform d call).outcome = .error (.tooDeep container)) := by
  have hunsendable := outcome_of_unsendable (d := d) hhost hop hnetwork htyped
  have hoverstated := outcome_of_overstated (d := d) hhost hop htyped
  have hunexplained := outcome_of_unexplained (d := d) hhost hop htyped
  refine ⟨⟨?_, ?_⟩, hunsendable, hoverstated, hunexplained⟩
  · rintro ⟨e, houtcome, he⟩
    exact gap_of_not_own hhost hversion hop hnetwork htyped hd houtcome he
  · rintro (h | h | h)
    · obtain ⟨first, start, length, houtcome⟩ := hunsendable h
      exact ⟨_, houtcome, rfl⟩
    · exact ⟨_, hoverstated h, rfl⟩
    · obtain ⟨container, houtcome⟩ := hunexplained h
      exact ⟨_, houtcome, rfl⟩

/-- A daemon that says that all went well and has nothing to say. -/
def agreeing : Daemon := .speaking (Utf8.encode "HTTP/1.1 204 No Content\r\nContent-Length: 0\r\n\r\n") none

theorem lookup_leaves_accented :
    ∃ first start length, (ofSocket.perform agreeing (.inspect "café" (some (.record .inspectOptions .characters
      [("verbose", .bool true), ("scope", .text "local")] [])))).outcome =
        .error (.escaped (.wideRequestLine first start length)) := by
  have htyped : Payload.holds .characters (.query .inspectOptions (some (.record .inspectOptions .characters
      [("verbose", .bool true), ("scope", .text "local")] []))) = true := rfl
  exact (lookup_leaves rfl rfl rfl rfl htyped rfl).2.1 ⟨⟨_, rfl⟩, rfl, by decide, by decide⟩

/-- A network whose name is one accented letter cannot be removed, and the error is not the client's own. -/
theorem remove_accented :
    (ofSocket.perform agreeing (.remove "é")).outcome = .error (.escaped (.wideRequestLine 'é' 17 1)) ∧
      (CallError.escaped (.wideRequestLine 'é' 17 1)).isOwn = false := ⟨by rfl, rfl⟩

end Client

end DaemonClient
