import DaemonClient.Proofs.Addresses
import DaemonClient.Proofs.OwnErrors
import DaemonClient.Proofs.Statuses

/-! What becomes of the faults that an exchange meets (`faults_reported`). A fault of the transport ends a call as failed
transport once there is a connection, whatever step it comes from: the request line, the connection, or the reply. There
is one gap: no connection is made to a host with a blank or a control character in its name, and that fault leaves the
call as it is. Such hosts are those that an address text writes so (`hostFault?_of_ofChars`). -/

namespace DaemonClient
open Outcome

/-! ### Hosts that no connection is made to -/

namespace Address

/-- An address text of a host that is written with a blank or a control character. -/
def NamesBroken (cs : List Char) : Prop := namesHost cs = true ∧ (hostOf cs).any breaksTarget = true

theorem any_breaksTarget_nameOf (host : List Char) : (nameOf host).toList.any breaksTarget = host.any breaksTarget := by
  rw [nameOf]
  split
  · rename_i hempty
    rw [List.isEmpty_iff.mp hempty]
    decide
  · exact Authority.any_breaksTarget_hostName host

/-- No connection is made to a host exactly if its address text writes it with a blank or a control character. -/
theorem hostFault?_of_ofChars {w : Surroundings} {cs : List Char} {a : Address} (h : ofChars w cs = .ok a) :
    (∃ f, a.hostFault? = some f) ↔ NamesBroken cs := by
  rcases ofChars_eq_ok.mp h with ⟨hhost, hauthority⟩ | ⟨hsocket, -, rfl⟩
  · obtain ⟨-, p, -, rfl⟩ := ofAuthority_eq_ok.mp hauthority
    rw [NamesBroken, hhost, ← Option.isSome_iff_exists, hostFault?, Option.isSome_map, List.find?_isSome,
      ← List.any_eq_true, any_breaksTarget_nameOf]
    exact ⟨fun hbreaks => ⟨rfl, hbreaks⟩, fun hbreaks => hbreaks.2⟩
  · constructor
    · rintro ⟨f, hf⟩
      cases hf
    · rintro ⟨hhost, -⟩
      rw [hsocket] at hhost
      cases hhost

/-- What keeps a connection from being made counts as a fault of the transport. -/
theorem isTransport_of_hostFault {a : Address} {f : TransportFault} (h : a.hostFault? = some f) :
    f.isTransport = true := by
  cases a with
  | socket path => cases h
  | host name port =>
      obtain ⟨found, -, rfl⟩ := Option.map_eq_some_iff.mp h
      rfl

end Address

/-! ### Steps of an exchange -/

/-- A step of an exchange that can fail: making the connection, writing the request line, a stage of the connection, or
reading what came back. -/
inductive Step
  | making
  | line
  | stage (s : Stage)
  | reading

/-- An exchange fails at a step with a fault: no step before it failed. -/
inductive Fails [Machine] (c : Client) (r : Request) : Daemon → Step → TransportFault → Prop
  | making {d : Daemon} {f : TransportFault} (h : c.address.hostFault? = some f) : Fails c r d .making f
  | scripted {reply : Reply} {s : Stage} {f : TransportFault} (hhost : c.address.hostFault? = none) :
      Fails c r (.scripted reply (some (s, f))) (.stage s) f
  | line {octets : List UInt8} {failure : Option (Stage × TransportFault)} {f : TransportFault}
      (hhost : c.address.hostFault? = none) (h : Request.lineFault? r.method (r.target c.version) = some f) :
      Fails c r (.speaking octets failure) .line f
  | connecting {octets : List UInt8} {f : TransportFault} (hhost : c.address.hostFault? = none)
      (hline : Request.lineFault? r.method (r.target c.version) = none) :
      Fails c r (.speaking octets (some (.connect, f))) (.stage .connect) f
  | sending {octets : List UInt8} {f : TransportFault} (hhost : c.address.hostFault? = none)
      (hline : Request.lineFault? r.method (r.target c.version) = none) :
      Fails c r (.speaking octets (some (.request, f))) (.stage .request) f
  | reading {octets : List UInt8} {failure : Option (Stage × TransportFault)} {f : TransportFault}
      (hhost : c.address.hostFault? = none) (hline : Request.lineFault? r.method (r.target c.version) = none)
      (hconnect : failureAt .connect failure = none) (hrequest : failureAt .request failure = none)
      (h : Reply.read r.method octets = .error f) : Fails c r (.speaking octets failure) .reading f

section
variable {c : Client} {d : Daemon} {r : Request} {f : TransportFault}

theorem failureAt_eq_some {stage : Stage} {failure : Option (Stage × TransportFault)} :
    failureAt stage failure = some f ↔ failure = some (stage, f) := by
  cases failure with
  | none => simp [failureAt]
  | some sf =>
      obtain ⟨s, g⟩ := sf
      by_cases hstage : s = stage <;> simp [failureAt, hstage]

/-- After a connection is made an exchange fails with what came back for its request. -/
theorem answer_of_fails [Machine] {step : Step} (h : Fails c r d step f) (hstep : step ≠ .making) :
    c.address.hostFault? = none ∧ (d.answer r (r.target c.version)).1 = .error f := by
  cases h with
  | making => exact absurd rfl hstep
  | scripted hhost => exact ⟨hhost, rfl⟩
  | line hhost hline => exact ⟨hhost, Daemon.answer_of_lineFault? rfl hline⟩
  | connecting hhost hline =>
      refine ⟨hhost, ?_⟩
      rw [Daemon.answer, hline]
      rfl
  | sending hhost hline =>
      refine ⟨hhost, ?_⟩
      rw [Daemon.answer, hline]
      rfl
  | reading hhost hline hconnect hrequest hread =>
      refine ⟨hhost, ?_⟩
      rw [Daemon.answer, hline, hconnect, hrequest]
      exact hread

theorem fails_of_answer [Machine] (hhost : c.address.hostFault? = none)
    (h : (d.answer r (r.target c.version)).1 = .error f) : ∃ step, step ≠ .making ∧ Fails c r d step f := by
  cases d with
  | scripted reply failure =>
      cases failure with
      | none => cases h
      | some sf =>
          obtain rfl := Except.error.inj h
          exact ⟨.stage sf.1, Step.noConfusion, .scripted hhost⟩
  | speaking octets failure =>
      cases hline : Request.lineFault? r.method (r.target c.version) with
      | some g =>
          rw [Daemon.answer_of_lineFault? rfl hline] at h
          obtain rfl := Except.error.inj h
          exact ⟨.line, Step.noConfusion, .line hhost hline⟩
      | none =>
          simp only [Daemon.answer, hline] at h
          split at h
          · rename_i g hconnect
            obtain rfl := Except.error.inj h
            obtain rfl := failureAt_eq_some.mp hconnect
            exact ⟨.stage .connect, Step.noConfusion, .connecting hhost hline⟩
          · rename_i hrequest
            obtain rfl := Except.error.inj h
            obtain rfl := failureAt_eq_some.mp hrequest
            exact ⟨.stage .request, Step.noConfusion, .sending hhost hline⟩
          · rename_i hconnect hrequest
            exact ⟨.reading, Step.noConfusion, .reading hhost hline hconnect hrequest h⟩

end

/-! ### Faults that calls end with -/

/-- The fault of an exchange that an error tells. -/
def CallError.fault? : CallError → Option TransportFault
  | transport _ _ f | escaped f => some f
  | _ => none

theorem CallError.fault?_ofReply [Machine] (reply : Reply) : (CallError.ofReply reply).fault? = none := by
  rw [ofReply]
  split <;> rfl

theorem CallError.fault?_reword (call : Call) (e : CallError) : (call.reword e).fault? = e.fault? := by
  unfold Call.reword
  split <;> rfl

theorem Call.IsUntold.fault? {e : CallError} (h : IsUntold e) : e.fault? = none := by
  rcases h with ⟨f, rfl⟩ | ⟨f, rfl⟩ <;> rfl

namespace Client

variable {c : Client} {d : Daemon} {call : Call} {op : Operation} {r : Request} {f : TransportFault}

theorem fault?_wrapFault (method target : String) (f : TransportFault) :
    (wrapFault method target f).fault? = some f := by
  rw [wrapFault]
  split <;> rfl

/-- What a call makes of a reply tells of no fault. -/
theorem fault?_received_reply [Machine] (hop : call.operation? = some op) (reply : Reply) {e : CallError}
    (h : c.received call r (.ok reply) = .error e) : e.fault? = none := by
  by_cases hstatus : 400 ≤ reply.status
  · rw [received, if_pos hstatus] at h
    obtain rfl := Except.error.inj h
    rw [CallError.fault?_reword, CallError.fault?_ofReply]
  · rw [received_reply c call r (by omega), Call.decode_eq hop] at h
    obtain ⟨e', herror, rfl⟩ := mapError_eq_error.mp h
    obtain ⟨ps, -, rfl⟩ := mapError_eq_error.mp herror
    rw [CallError.fault?_reword]
    rfl

/-- What came back decides which fault a call tells of. -/
theorem fault?_of_request [Machine] (hhost : c.address.hostFault? = none) (hop : call.operation? = some op)
    (hrequest : call.request = .ok (some r)) :
    (∃ e, (c.perform d call).outcome = .error e ∧ e.fault? = some f) ↔
      (d.answer r (r.target c.version)).1 = .error f := by
  rw [perform_of_request hhost hrequest]
  generalize (d.answer r (r.target c.version)).2 = seen
  cases (d.answer r (r.target c.version)).1 with
  | error g =>
      have hreceived : c.received call r (.error g) =
          .error (call.reword (wrapFault r.method (r.target c.version) g)) := rfl
      rw [Call.conclude_of_error hreceived]
      simp [hreceived, CallError.fault?_reword, fault?_wrapFault]
  | ok reply =>
      refine ⟨?_, fun h => nomatch h⟩
      rintro ⟨e, he, hfault⟩
      rcases call.conclude_cases _ with hsame | ⟨e', he', huntold⟩
      · have hreceived : c.received call r (.ok reply) = .error e := hsame.symm.trans he
        rw [fault?_received_reply hop reply hreceived] at hfault
        cases hfault
      · rw [he'] at he
        obtain rfl := Except.error.inj he
        rw [huntold.fault?] at hfault
        cases hfault

/-- The target of a call has characters that are not printed only where the version or the name of the network has
them. -/
theorem any_sentTarget_of_request (hop : call.operation? = some op) (hrequest : call.request = .ok (some r))
    {p : Char → Bool} (hp : ∀ ch, isPrinted ch = true → p ch = false) :
    (Request.sentTarget (r.target c.version)).toList.any p =
      ((pinned c.version).any p || (call.network?.getD "").toList.any p) := by
  obtain ⟨query, body, -, rfl⟩ := encode_of_request hop hrequest
  rw [Request.any_sentTarget _ hp, Request.any_target _ _ hp]
  exact congrArg (_ || ·) (Call.any_path hop hp)

/-- With a name and a version in ASCII an exchange with a daemon that fails as a connection does meets faults of the
transport, and a body longer than memory holds. -/
theorem isTransport_of_fails [Machine] (hop : call.operation? = some op) (hrequest : call.request = .ok (some r))
    (hversion : (pinned c.version).any isWide = false) (hname : (call.network?.getD "").toList.any isWide = false)
    (hd : d.failsAsTransport = true) {step : Step} (h : Fails c r d step f) :
    f.isTransport = true ∨ (f = .oversizedLength ∧ d.overstates r.method) := by
  by_cases hmaking : step = .making
  · subst hmaking
    cases h with
    | making hhost => exact .inl (Address.isTransport_of_hostFault hhost)
  obtain ⟨-, hanswer⟩ := answer_of_fails h hmaking
  rcases Daemon.fault_of_answer hd hanswer with hf | ⟨-, hline⟩ | hover
  · exact .inl hf
  · have hmethod : r.method.toList.all isPrinted = true := by
      obtain ⟨query, body, -, rfl⟩ := encode_of_request hop hrequest
      exact Call.printed_of_operation hop
    have hwide := any_sentTarget_of_request (c := c) hop hrequest fun _ => Request.isWide_of_isPrinted
    rw [hversion, hname, Bool.or_false] at hwide
    cases hbreaks : (Request.sentTarget (r.target c.version)).toList.any breaksTarget with
    | true =>
        obtain ⟨found, hfault⟩ := Request.lineFault?_of_breaks hmethod hbreaks
        obtain rfl := Option.some.inj (hfault.symm.trans hline)
        exact .inl rfl
    | false =>
        rw [Request.lineFault?_of_narrow hmethod hbreaks hwide] at hline
        cases hline
  · exact .inr hover

/-! ### What becomes of faults -/

/-- How the faults that an exchange meets end a call, with a client whose address is made of a text. -/
structure Reported [Machine] (c : Client) (d : Daemon) (call : Call) (r : Request) (text : String) : Prop where
  /-- The fault that a call ends with, if any, is the one that the exchange meets at a step. -/
  met : ∀ f, (∃ e, (c.perform d call).outcome = .error e ∧ e.fault? = some f) ↔ ∃ step, Fails c r d step f
  /-- A fault of the transport after the connection is made is told as failed transport. -/
  wrapped : ∀ step f, Fails c r d step f → step ≠ .making → f.isTransport = true →
    (c.perform d call).outcome = .error (.transport r.method (r.target c.version) f)
  /-- A fault before the connection is made is one of the transport too, and leaves the call as it is. -/
  escaped : ∀ f, Fails c r d .making f → f.isTransport = true ∧ (c.perform d call).outcome = .error (.escaped f)
  /-- There is one exactly for a host that the text writes with a blank or a control character. -/
  host : (∃ f, Fails c r d .making f) ↔ Address.NamesBroken text.toList
  /-- With a name and a version in ASCII the faults are those of the transport, and one of a body that is too long. -/
  ordinary : (pinned c.version).any isWide = false → (call.network?.getD "").toList.any isWide = false →
    d.failsAsTransport = true → ∀ step f, Fails c r d step f →
      f.isTransport = true ∨ (f = .oversizedLength ∧ d.overstates r.method)

theorem fails_making [Machine] : Fails c r d .making f ↔ c.address.hostFault? = some f := by
  constructor
  · intro h
    cases h with
    | making hhost => exact hhost
  · exact .making

theorem met_iff [Machine] (hop : call.operation? = some op) (hrequest : call.request = .ok (some r)) :
    (∃ e, (c.perform d call).outcome = .error e ∧ e.fault? = some f) ↔ ∃ step, Fails c r d step f := by
  cases hhost : c.address.hostFault? with
  | none =>
      rw [fault?_of_request hhost hop hrequest]
      constructor
      · intro hanswer
        obtain ⟨step, -, h⟩ := fails_of_answer hhost hanswer
        exact ⟨step, h⟩
      · rintro ⟨step, h⟩
        refine (answer_of_fails h fun hmaking => ?_).2
        rw [hmaking, fails_making, hhost] at h
        cases h
  | some g =>
      rw [perform_of_hostFault hhost hrequest]
      constructor
      · rintro ⟨e, he, hfault⟩
        obtain rfl := Except.error.inj he
        obtain rfl := Option.some.inj hfault
        exact ⟨.making, .making hhost⟩
      · rintro ⟨step, h⟩
        refine ⟨_, rfl, ?_⟩
        by_cases hmaking : step = .making
        · rw [hmaking, fails_making, hhost] at h
          exact h
        · rw [(answer_of_fails h hmaking).1] at hhost
          cases hhost

/-- **Faults of the transport are told as failed transport, but for hosts that no connection is made to.** -/
theorem faults_reported [Machine] {w : Surroundings} {base : Option String}
    (haddress : Address.choose w (Address.baseValue base) = .ok c.address) (hop : call.operation? = some op)
    (hrequest : call.request = .ok (some r)) : Reported c d call r (Address.textOf w base) where
  met _ := met_iff hop hrequest
  wrapped step f h hstep hf := by
    obtain ⟨hhost, hanswer⟩ := answer_of_fails h hstep
    have hreceived : c.received call r (.error f) = .error (.transport r.method (r.target c.version) f) := by
      rw [received, wrapFault, if_pos hf, Call.reword_transport]
    rw [perform_of_request hhost hrequest, hanswer, Call.conclude_of_error hreceived]
    exact hreceived
  escaped f h := by
    have hhost := fails_making.mp h
    exact ⟨Address.isTransport_of_hostFault hhost, perform_of_hostFault hhost hrequest⟩
  host := by
    rw [Address.choose_baseValue] at haddress
    rw [← Address.hostFault?_of_ofChars haddress]
    exact exists_congr fun f => fails_making
  ordinary hversion hname hd step f h := isTransport_of_fails hop hrequest hversion hname hd h

/-- A client of a daemon on a host. -/
def ofHost : Client := ⟨.host "h" 2375, .int 60, .null⟩

/-- A daemon that breaks off after one octet of nine. -/
def breakingOff : Daemon := .speaking (Utf8.encode "HTTP/1.1 200 OK\r\nContent-Length: 9\r\n\r\n[") none

theorem faults_reported_breakingOff :
    (ofHost.perform breakingOff (.list none)).outcome =
      .error (.transport "GET" "/networks" (.shortBody 1 (some 8))) := by
  have haddress : Address.choose {} (Address.baseValue (some "tcp://h")) = .ok ofHost.address := rfl
  have hreported : Reported ofHost breakingOff (.list none) _ _ := faults_reported haddress rfl rfl
  have hfails : Fails ofHost (.build "GET" "/networks" none none) breakingOff .reading (.shortBody 1 (some 8)) :=
    .reading rfl rfl rfl rfl rfl
  exact hreported.wrapped .reading _ hfails Step.noConfusion rfl

/-- No connection is made to a host with a blank in its name, and the fault is not told as failed transport. -/
theorem remove_blankHost :
    ∃ c : Client, Address.choose {} (Address.baseValue (some "tcp://a b:2375")) = .ok c.address ∧
      (c.perform (.scripted ⟨204, [], []⟩ none) (.remove "n")).outcome = .error (.escaped (.controlInHost "a b" ' ')) ∧
      (TransportFault.controlInHost "a b" ' ').isTransport = true :=
  ⟨⟨.host "a b" 2375, .int 60, .null⟩, rfl, rfl, rfl⟩

end Client

end DaemonClient
