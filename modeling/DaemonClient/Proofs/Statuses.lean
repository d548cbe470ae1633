import DaemonClient.Proofs.Endings

/-! What the status of a reply means to a call of the networks API (`judged`). A call returns only after a reply with a
status below 400, and a call that is refused tells the status of the reply that refused it, which is 400 or more. A
reply that redirects is no refusal: below 400 only the body decides. -/

namespace DaemonClient
open Outcome

/-- A call was answered: its request went out, and a reply came back for it. -/
structure Answered [Machine] (c : Client) (d : Daemon) (call : Call) (r : Request) (reply : Reply) : Prop where
  request : call.request = .ok (some r)
  host : c.address.hostFault? = none
  came : (d.answer r (r.target c.version)).1 = .ok reply

/-- The status of the reply decides how an exchange of a call ends. -/
structure Judged [Machine] (c : Client) (d : Daemon) (call : Call) (op : Operation) (x : Exchange Answer) : Prop where
  /-- A call returns only after a reply with a status below 400. -/
  returned : ∀ a, x.outcome = .ok a → ∃ r reply, Answered c d call r reply ∧ reply.status < 400
  /-- A refusal is one by a reply with a status of 400 or more, and tells that status. -/
  told : ∀ refusal, x.outcome = .error (.refused refusal) →
    ∃ r reply, Answered c d call r reply ∧ 400 ≤ reply.status ∧ refusal.status = some reply.status
  /-- A reply with a status of 400 or more and an explanation that can be read refuses the call. -/
  refused : ∀ r reply, Answered c d call r reply → 400 ≤ reply.status → ∀ text, Refusal.explain reply.body = .ok text →
    ∃ refusal, x.outcome = .error (.refused refusal) ∧ refusal.status = some reply.status
  /-- After a reply with a status below 400 a call of well-typed options returns what the body says. -/
  taken : ∀ r reply, Answered c d call r reply → reply.status < 400 → (∃ form, op.payload.holds form = true) →
    ∀ v, op.reply.read reply.body = .ok v → x.outcome = .ok (.value v)

namespace Call

variable {call : Call} {op : Operation} {x : Exchange Answer}

theorem conclude_of_error {e : CallError} (h : x.outcome = .error e) : call.conclude x = x := by
  unfold conclude
  split
  · rename_i hreport
    rw [h] at hreport
    cases hreport
  · rfl

/-- What keeps a creation from being told of: options without a name, or a name that cannot be shown. -/
def IsUntold (e : CallError) : Prop := (∃ f, e = .options f) ∨ ∃ f, e = .unreadable f

theorem createdLine_eq_error {options report : Value} {e : CallError} (h : createdLine options report = .error e) :
    IsUntold e := by
  rw [createdLine, bind_eq_error, mapError_eq_error] at h
  rcases h with ⟨f, -, rfl⟩ | ⟨name, -, h⟩
  · exact .inl ⟨f, rfl⟩
  rw [bind_eq_error, mapError_eq_error] at h
  rcases h with ⟨f, -, rfl⟩ | ⟨t, -, h⟩
  · exact .inr ⟨f, rfl⟩
  rw [bind_eq_error, mapError_eq_error] at h
  rcases h with ⟨f, -, rfl⟩ | ⟨shown, -, h⟩
  · exact .inr ⟨f, rfl⟩
  · cases h

/-- After its reply is decoded a call may still fail, for want of something to tell of it. -/
theorem conclude_cases (call : Call) (x : Exchange Answer) :
    (call.conclude x).outcome = x.outcome ∨ ∃ e, (call.conclude x).outcome = .error e ∧ IsUntold e := by
  unfold conclude
  split
  · rename_i options report houtcome
    cases hline : createdLine options report with
    | ok line => exact .inl rfl
    | error e => exact .inr ⟨e, rfl, createdLine_eq_error hline⟩
  · exact .inl rfl

theorem outcome_of_conclude_ok {a : Answer} (h : (call.conclude x).outcome = .ok a) : x.outcome = .ok a := by
  rcases call.conclude_cases x with hsame | ⟨e, he, -⟩
  · rw [← hsame, h]
  · rw [he] at h
    cases h

theorem outcome_of_conclude_refused {refusal : Refusal} (h : (call.conclude x).outcome = .error (.refused refusal)) :
    x.outcome = .error (.refused refusal) := by
  rcases call.conclude_cases x with hsame | ⟨e, he, hnot⟩
  · rw [← hsame, h]
  · rw [he] at h
    obtain rfl := Except.error.inj h
    rcases hnot with ⟨f, hf⟩ | ⟨f, hf⟩ <;> cases hf

end Call

namespace Client

variable {c : Client} {d : Daemon} {call : Call} {op : Operation} {r : Request} {came : Except TransportFault Reply}

theorem wrapFault_not_refused (method target : String) (f : TransportFault) (refusal : Refusal) :
    wrapFault method target f ≠ .refused refusal := by
  rw [wrapFault]
  split <;> exact CallError.noConfusion

/-- A call makes something of a reply only if its status is below 400. -/
theorem received_eq_ok [Machine] {a : Answer} (h : c.received call r came = .ok a) :
    ∃ reply, came = .ok reply ∧ reply.status < 400 := by
  cases came with
  | error f => cases h
  | ok reply =>
      refine ⟨reply, rfl, ?_⟩
      by_contra hstatus
      rw [received, if_pos (by omega)] at h
      cases h

/-- Only a reply with a status of 400 or more refuses a call. -/
theorem received_eq_refused [Machine] (hop : call.operation? = some op) {refusal : Refusal}
    (h : c.received call r came = .error (.refused refusal)) :
    ∃ reply, came = .ok reply ∧ 400 ≤ reply.status ∧ Refuses call reply refusal := by
  cases came with
  | error f =>
      have hreword : call.reword (wrapFault r.method (r.target c.version) f) = wrapFault r.method (r.target c.version) f :=
        Call.reword_of_ne (wrapFault_not_refused _ _ _)
      rw [received, hreword] at h
      exact absurd (Except.error.inj h) (wrapFault_not_refused _ _ _ _)
  | ok reply =>
      by_cases hstatus : 400 ≤ reply.status
      · refine ⟨reply, rfl, hstatus, ?_⟩
        rw [received, if_pos hstatus] at h
        rcases call.reword_ofReply reply with ⟨refusal', hreword, hrefuses⟩ | ⟨container, hreword, -⟩
        · rw [hreword] at h
          obtain rfl := CallError.refused.inj (Except.error.inj h)
          exact hrefuses
        · rw [hreword] at h
          cases h
      · rw [received_reply c call r (by omega), Call.decode_eq hop] at h
        cases hread : op.reply.read reply.body with
        | ok v => rw [hread] at h; cases h
        | error ps =>
            rw [hread, map_error, mapError_error, mapError_error, Call.reword_undecodable] at h
            cases h

/-- A host that no connection can be made to ends a call with that fault itself. -/
theorem perform_of_hostFault [Machine] {f : TransportFault} (hhost : c.address.hostFault? = some f)
    (hrequest : call.request = .ok (some r)) : (c.perform d call).outcome = .error (.escaped f) := by
  have hescaped : (.error (call.reword (.escaped f)) : Except CallError Answer) = .error (.escaped f) := by
    rw [Call.reword_escaped]
  rw [perform, hrequest]
  simp only [send, hhost]
  rw [Call.conclude_of_error hescaped]
  exact hescaped

/-- A call whose options have an encoding is made as far as its host lets it; every other one is an error before
anything is sent, and not a refusal. -/
theorem perform_cases [Machine] (c : Client) (d : Daemon) (hop : call.operation? = some op) :
    (∃ e, (c.perform d call).outcome = .error e ∧ ∀ refusal, e ≠ .refused refusal) ∨
      ∃ r, call.request = .ok (some r) ∧ c.address.hostFault? = none := by
  cases hencode : op.payload.encode with
  | error fault =>
      refine .inl ⟨.options fault, ?_, fun _ => CallError.noConfusion⟩
      rw [perform, Call.request_eq hop, hencode]
      rfl
  | ok sent =>
      have hrequest : call.request = .ok (some (.build op.method op.path sent.1 sent.2)) := by
        rw [Call.request_eq hop, hencode]
        rfl
      cases hhost : c.address.hostFault? with
      | none => exact .inr ⟨_, hrequest, rfl⟩
      | some f => exact .inl ⟨.escaped f, perform_of_hostFault hhost hrequest, fun _ => CallError.noConfusion⟩

theorem encode_of_request (hop : call.operation? = some op) (hrequest : call.request = .ok (some r)) :
    ∃ query body, op.payload.encode = .ok (query, body) ∧ r = .build op.method op.path query body := by
  rw [Call.request_eq hop, map_eq_ok] at hrequest
  obtain ⟨⟨query, body⟩, hencode, hr⟩ := hrequest
  exact ⟨query, body, hencode, (Option.some.inj hr).symm⟩

/-- A call that returned was answered with a status below 400. -/
theorem answered_of_ok [Machine] (hop : call.operation? = some op) {a : Answer}
    (h : (c.perform d call).outcome = .ok a) : ∃ r reply, Answered c d call r reply ∧ reply.status < 400 := by
  rcases perform_cases c d hop with ⟨e, he, -⟩ | ⟨r, hrequest, hhost⟩
  · rw [he] at h
    cases h
  · rw [perform_of_request hhost hrequest] at h
    obtain ⟨reply, hcame, hstatus⟩ := received_eq_ok (Call.outcome_of_conclude_ok h)
    exact ⟨r, reply, ⟨hrequest, hhost, hcame⟩, hstatus⟩

/-- A call that was refused was answered with the status that the refusal tells, which is 400 or more. -/
theorem answered_of_refused [Machine] (hop : call.operation? = some op) {refusal : Refusal}
    (h : (c.perform d call).outcome = .error (.refused refusal)) :
    ∃ r reply, Answered c d call r reply ∧ 400 ≤ reply.status ∧ refusal.status = some reply.status := by
  rcases perform_cases c d hop with ⟨e, he, hnot⟩ | ⟨r, hrequest, hhost⟩
  · rw [he] at h
    exact absurd (Except.error.inj h) (hnot refusal)
  · rw [perform_of_request hhost hrequest] at h
    obtain ⟨reply, hcame, hstatus, hrefuses⟩ := received_eq_refused hop (Call.outcome_of_conclude_refused h)
    exact ⟨r, reply, ⟨hrequest, hhost, hcame⟩, hstatus, hrefuses.status⟩

/-- An answer with a status of 400 or more refuses the call with what it explains, if that can be read. -/
theorem refuses_of_answered [Machine] {reply : Reply} (h : Answered c d call r reply) (hstatus : 400 ≤ reply.status)
    {text : String} (htext : Refusal.explain reply.body = .ok text) :
    ∃ refusal, (c.perform d call).outcome = .error (.refused refusal) ∧ Refuses call reply refusal := by
  rcases call.reword_ofReply reply with ⟨refusal, hreword, hrefuses⟩ | ⟨container, -, hdeep⟩
  · have hreceived : c.received call r (.ok reply) = .error (.refused refusal) := by
      rw [received, if_pos hstatus, hreword]
    refine ⟨refusal, ?_, hrefuses⟩
    rw [perform_of_request h.host h.request, h.came, Call.conclude_of_error hreceived]
    exact hreceived
  · rw [htext] at hdeep
    cases hdeep

theorem refused_of_answered [Machine] {reply : Reply} (h : Answered c d call r reply) (hstatus : 400 ≤ reply.status)
    {text : String} (htext : Refusal.explain reply.body = .ok text) :
    ∃ refusal, (c.perform d call).outcome = .error (.refused refusal) ∧ refusal.status = some reply.status := by
  obtain ⟨refusal, houtcome, hrefuses⟩ := refuses_of_answered h hstatus htext
  exact ⟨refusal, houtcome, hrefuses.status⟩

/-- An answer with a status below 400 is taken for what its body says. -/
theorem taken_of_answered [Machine] (hop : call.operation? = some op) {form : TextForm}
    (htyped : op.payload.holds form = true) {reply : Reply} (h : Answered c d call r reply)
    (hstatus : reply.status < 400) {v : Value} (hv : op.reply.read reply.body = .ok v) :
    (c.perform d call).outcome = .ok (.value v) := by
  obtain ⟨query, body, hencode, hr⟩ := encode_of_request hop h.request
  have houtcome := (perform_of_encode (d := d) h.host hop htyped hencode hr).1
  rw [houtcome, h.came, received_reply c call r hstatus, Call.decode_eq hop, hv]
  rfl

/-- **The status of the reply decides how a call ends**: 400 or more refuses it, and less lets it take the body. -/
theorem judged [Machine] (hop : call.operation? = some op) : Judged c d call op (c.perform d call) where
  returned _ h := answered_of_ok hop h
  told _ h := answered_of_refused hop h
  refused _ _ h hstatus _ htext := refused_of_answered h hstatus htext
  taken _ _ h hstatus htyped _ hv := by
    obtain ⟨form, htyped⟩ := htyped
    exact taken_of_answered hop htyped h hstatus hv

theorem judged_listing :
    Judged ofSocket (.scripted ⟨500, [], []⟩ none) (.list none)
      ⟨"GET", "/networks", .query .listOptions none, .list .listedNetwork⟩
      (ofSocket.perform (.scripted ⟨500, [], []⟩ none) (.list none)) := judged rfl

/-- A reply that redirects the removal of a network lets it return. -/
theorem remove_redirected :
    ∃ r reply, Answered ofSocket (.scripted ⟨302, [], []⟩ none) (.remove "n") r reply ∧
      ¬ (200 ≤ reply.status ∧ reply.status ≤ 299) ∧
      (ofSocket.perform (.scripted ⟨302, [], []⟩ none) (.remove "n")).outcome = .ok (.value .null) :=
  ⟨_, _, ⟨rfl, rfl, rfl⟩, by decide, rfl⟩

end Client

end DaemonClient
