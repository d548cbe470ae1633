import DaemonClient.Proofs.Depth
import DaemonClient.Proofs.Operations
import DaemonClient.Proofs.Replies
import Mathlib.Data.List.TakeWhile

/-! Every call of the networks API ends in exactly one of six ways (`session_ends`), whatever calls came before it: its
options have no encoding and nothing is sent, the connection fails, the daemon refuses, the reply is not what the call
returns, or the call returns what the reply says. The sixth way is a gap: a refusal whose explanation is nested too
deeply to be read ends as a failure to read and not as a refusal. A body with no more opening signs than a reader
follows leaves no such gap (`explain_of_openings`). -/

namespace DaemonClient
open Outcome

/-! ### What goes out -/

def isPrinted (c : Char) : Bool := 0x21 ≤ c.toNat && c.toNat ≤ 0x7E

namespace Request

theorem breaksTarget_of_isPrinted {c : Char} (h : isPrinted c = true) : breaksTarget c = false := by
  simp only [isPrinted, Char.toNat, Bool.and_eq_true, decide_eq_true_eq] at h
  simp only [breaksTarget, Bool.or_eq_false_iff, decide_eq_false_iff_not, beq_eq_false_iff_ne, ne_eq,
    UInt32.le_iff_toNat_le, ← UInt32.toNat_inj, UInt32.reduceToNat]
  omega

theorem isWide_of_isPrinted {c : Char} (h : isPrinted c = true) : isWide c = false := by
  simp only [isPrinted, Char.toNat, Bool.and_eq_true, decide_eq_true_eq] at h
  simp only [isWide, decide_eq_false_iff_not, UInt32.le_iff_toNat_le, UInt32.reduceToNat]
  omega

theorem find?_isControl_of_printed {method : String} (h : method.toList.all isPrinted = true) :
    method.toList.find? isControl = none := by
  rw [List.all_eq_true] at h
  apply List.find?_eq_none.mpr
  intro c hc hcontrol
  have hprinted := h c hc
  simp only [isPrinted, Char.toNat, Bool.and_eq_true, decide_eq_true_eq] at hprinted
  simp only [isControl, decide_eq_true_eq, UInt32.le_iff_toNat_le, UInt32.reduceToNat] at hcontrol
  omega

/-- Of a request line only the target can have characters beyond ASCII. -/
theorem any_isWide_line {method : String} (h : method.toList.all isPrinted = true) (target : String) :
    (line method target).any isWide = (sentTarget target).toList.any isWide := by
  have hmethod : method.toList.any isWide = false := by
    rw [List.all_eq_true] at h
    rw [List.any_eq_false]
    intro c hc
    simp [isWide_of_isPrinted (h c hc)]
  have hversion : " HTTP/1.1".toList.any isWide = false := by decide
  rw [line, List.any_append, List.any_cons, List.any_append, hmethod, hversion]
  simp [show isWide ' ' = false by decide]

/-- A blank or a control character in a target is what is wrong with its line, whatever else is. -/
theorem lineFault?_of_breaks {method target : String} (hmethod : method.toList.all isPrinted = true)
    (h : (sentTarget target).toList.any breaksTarget = true) :
    ∃ c, lineFault? method target = some (.controlInTarget (sentTarget target) c) := by
  obtain ⟨c, hc⟩ : ∃ c, (sentTarget target).toList.find? breaksTarget = some c := by
    rw [← Option.isSome_iff_exists, List.find?_isSome]
    exact List.any_eq_true.mp h
  exact ⟨c, by simp only [lineFault?, find?_isControl_of_printed hmethod, hc]⟩

/-- A character beyond ASCII in a target that nothing breaks is what is wrong with its line. -/
theorem lineFault?_of_wide {method target : String} (hmethod : method.toList.all isPrinted = true)
    (hbreaks : (sentTarget target).toList.any breaksTarget = false)
    (h : (sentTarget target).toList.any isWide = true) :
    ∃ first start length, lineFault? method target = some (.wideRequestLine first start length) := by
  have hfind : (sentTarget target).toList.find? breaksTarget = none :=
    List.find?_eq_none.mpr fun c hc => by simpa using List.any_eq_false.mp hbreaks c hc
  have hline : (line method target).dropWhile (!isWide ·) ≠ [] := by
    intro hnil
    rw [← any_isWide_line hmethod, List.any_eq_true] at h
    obtain ⟨c, hc, hwide⟩ := h
    have hnarrow := List.dropWhile_eq_nil_iff.mp hnil c hc
    simp [hwide] at hnarrow
  obtain ⟨c, rest, hcons⟩ := List.exists_cons_of_ne_nil hline
  exact ⟨c, _, _, by simp only [lineFault?, find?_isControl_of_printed hmethod, hfind, hcons]; rfl⟩

/-- A target of ASCII that nothing breaks makes a line. -/
theorem lineFault?_of_narrow {method target : String} (hmethod : method.toList.all isPrinted = true)
    (hbreaks : (sentTarget target).toList.any breaksTarget = false)
    (h : (sentTarget target).toList.any isWide = false) : lineFault? method target = none := by
  have hfind : (sentTarget target).toList.find? breaksTarget = none :=
    List.find?_eq_none.mpr fun c hc => by simpa using List.any_eq_false.mp hbreaks c hc
  have hline : (line method target).dropWhile (!isWide ·) = [] := by
    rw [← any_isWide_line hmethod, List.any_eq_false] at h
    exact List.dropWhile_eq_nil_iff.mpr fun c hc => by simpa using h c hc
  simp only [lineFault?, find?_isControl_of_printed hmethod, hfind, hline]

theorem lineFault?_eq_none {method target : String} (hmethod : method.toList.all isPrinted = true)
    (htarget : target.toList.all isPrinted = true) : lineFault? method target = none := by
  have hsent : (sentTarget target).toList.all isPrinted = true := by
    rw [sentTarget]
    split
    · decide
    · exact htarget
  rw [List.all_eq_true] at hsent
  apply lineFault?_of_narrow hmethod
  · exact List.any_eq_false.mpr fun c hc => by simp [breaksTarget_of_isPrinted (hsent c hc)]
  · exact List.any_eq_false.mpr fun c hc => by simp [isWide_of_isPrinted (hsent c hc)]

/-- Headers tell of a body: its type if there is one, and its length, once. -/
structure Labelled (body : Option (List UInt8)) (hs : List Header) : Prop where
  type : hs.filter (·.1 == "Content-Type") = if body.isSome then [("Content-Type", "application/json")] else []
  length : ∀ bs, body = some bs → hs.filter (·.1 == "Content-Length") = [("Content-Length", toString bs.length)]

theorem labelled_outgoingHeaders (method path : String) (query : Option (List (Value × Value)))
    (body : Option (List UInt8)) : Labelled body (build method path query body).outgoingHeaders := by
  cases body with
  | none => exact ⟨rfl, fun _ h => by cases h⟩
  | some bs =>
      refine ⟨rfl, fun bs' h => ?_⟩
      obtain rfl := Option.some.inj h
      rfl

theorem labelled_sentHeaders (method path : String) (query : Option (List (Value × Value)))
    (body : Option (List UInt8)) : Labelled body (build method path query body).sentHeaders := by
  cases body with
  | none =>
      refine ⟨?_, fun _ h => by cases h⟩
      rw [sentHeaders]
      cases announcesNoBody (build method path query none).method <;> rfl
  | some bs =>
      refine ⟨rfl, fun bs' h => ?_⟩
      obtain rfl := Option.some.inj h
      rfl

end Request

/-! ### What the other side sees -/

/-- What the other side sees of an exchange is one request at most, and the connection is closed once. -/
structure SeesOnly (r : Request) (target : String) (seen : Seen) : Prop where
  handed : ∀ h, seen.handed = some h → h = ⟨r.method, target, r.body, r.outgoingHeaders⟩
  sent : ∀ bs, seen.sent = some bs → bs = r.octets target
  once : seen.handed = none ∨ seen.sent = none
  closed : seen.closed = 1

namespace Daemon

theorem seesOnly_answer [Machine] (d : Daemon) (r : Request) (target : String) :
    SeesOnly r target (d.answer r target).2 := by
  have hnone (dialled : Bool) : SeesOnly r target ⟨none, dialled, none, 1⟩ :=
    ⟨fun _ h => (nomatch h), fun _ h => (nomatch h), .inl rfl, rfl⟩
  cases d with
  | scripted reply failure =>
      have hseen : (answer (scripted reply failure) r target).2 =
          ⟨some ⟨r.method, target, r.body, r.outgoingHeaders⟩, false, none, 1⟩ := by
        cases failure <;> rfl
      rw [hseen]
      exact ⟨fun _ h => (Option.some.inj h).symm, fun _ h => (nomatch h), .inr rfl, rfl⟩
  | speaking octets failure =>
      simp only [answer]
      split
      · exact hnone _
      split
      · exact hnone _
      · exact hnone _
      · exact ⟨fun _ h => (nomatch h), fun _ h => (Option.some.inj h).symm, .inl rfl, rfl⟩

/-- A daemon that fails, if it does, as a connection does, and that tells of no body longer than memory holds. -/
def isOrdinary [Machine] (method : String) : Daemon → Bool
  | scripted _ failure => failure.all (·.2.isTransport)
  | speaking octets failure =>
    failure.all (·.2.isTransport) &&
      match Reply.read method octets with
      | .error .oversizedLength => false
      | _ => true

theorem isTransport_of_failureAt {stage : Stage} {failure : Option (Stage × TransportFault)} {f : TransportFault}
    (hfailure : failure.all (·.2.isTransport) = true) (h : failureAt stage failure = some f) : f.isTransport = true := by
  cases failure with
  | none => cases h
  | some sf =>
      rw [failureAt] at h
      split at h
      · obtain rfl := Option.some.inj h
        exact hfailure
      · cases h

/-- A daemon that is spoken to on a connection, where the request line is looked at. -/
def looksAtLine : Daemon → Bool
  | scripted .. => false
  | speaking .. => true

/-- Where the request line is looked at, its fault is what comes of a request. -/
theorem answer_of_lineFault? [Machine] {d : Daemon} (hd : d.looksAtLine = true) {r : Request} {target : String}
    {f : TransportFault} (h : Request.lineFault? r.method target = some f) : (d.answer r target).1 = .error f := by
  cases d with
  | scripted => cases hd
  | speaking octets failure => simp only [answer, h]

/-- A daemon that fails, if it does, as a connection does. -/
def failsAsTransport : Daemon → Bool
  | scripted _ failure | speaking _ failure => failure.all (·.2.isTransport)

/-- A daemon that tells of a body longer than memory holds. -/
def overstates [Machine] (method : String) : Daemon → Prop
  | scripted .. => False
  | speaking octets _ => Reply.read method octets = .error .oversizedLength

/-- What comes of a request, if not a reply, is a failure of the transport, the fault of the request line, or a body
longer than memory holds. -/
theorem fault_of_answer [Machine] {d : Daemon} {r : Request} {target : String} {f : TransportFault}
    (hd : d.failsAsTransport = true) (h : (d.answer r target).1 = .error f) :
    f.isTransport = true ∨ (d.looksAtLine = true ∧ Request.lineFault? r.method target = some f) ∨
      (f = .oversizedLength ∧ d.overstates r.method) := by
  cases d with
  | scripted reply failure =>
      cases failure with
      | none => cases h
      | some sf =>
          obtain rfl := Except.error.inj h
          exact .inl hd
  | speaking octets failure =>
      simp only [answer] at h
      split at h
      · rename_i hline
        obtain rfl := Except.error.inj h
        exact .inr (.inl ⟨rfl, hline⟩)
      split at h
      · rename_i hconnect
        obtain rfl := Except.error.inj h
        exact .inl (isTransport_of_failureAt hd hconnect)
      · rename_i hrequest
        obtain rfl := Except.error.inj h
        exact .inl (isTransport_of_failureAt hd hrequest)
      · rcases Reply.fails_read r.method octets f h with hf | rfl
        · exact .inl hf
        · exact .inr (.inr ⟨rfl, h⟩)

theorem isOrdinary_iff [Machine] {method : String} {d : Daemon} :
    d.isOrdinary method = true ↔ d.failsAsTransport = true ∧ ¬ d.overstates method := by
  cases d with
  | scripted reply failure => simp [isOrdinary, failsAsTransport, overstates]
  | speaking octets failure =>
      rw [isOrdinary, Bool.and_eq_true, failsAsTransport, overstates]
      cases hread : Reply.read method octets with
      | ok reply => simp
      | error f => cases f <;> simp

theorem isTransport_of_answer [Machine] {d : Daemon} {r : Request} {target : String} {f : TransportFault}
    (hd : d.isOrdinary r.method = true) (hline : Request.lineFault? r.method target = none)
    (h : (d.answer r target).1 = .error f) : f.isTransport = true := by
  obtain ⟨hfails, hlength⟩ := isOrdinary_iff.mp hd
  rcases fault_of_answer hfails h with hf | ⟨-, hfault⟩ | ⟨-, hover⟩
  · exact hf
  · rw [hline] at hfault
    cases hfault
  · exact absurd hover hlength

end Daemon

/-! ### What a refusal says -/

/-- A refusal tells the reply, its status and an explanation. It is news about a network exactly if its status is 404
and its call is about one. -/
structure Refuses [Machine] (call : Call) (reply : Reply) (refusal : Refusal) : Prop where
  told : refusal.reply = some reply
  status : refusal.status = some reply.status
  explained : ∃ text, Refusal.explain reply.body = .ok text ∧ refusal.explanation = some text
  general : ∀ text, Refusal.explain reply.body = .ok text → call.network? = none ∨ reply.status ≠ 404 →
    refusal.kind = .general ∧ refusal.message = "Docker API error: " ++ text
  absent : ∀ n, call.network? = some n → reply.status = 404 →
    refusal.kind = .networkNotFound ∧ refusal.message = "Network not found: " ++ n

namespace Refusal

variable [Machine]

theorem explain_eq_error {body : List UInt8} {container : Json.Container} :
    explain body = .error container ↔ Json.parseText (Utf8.decodeLossy body) = .error (.tooDeep container) := by
  rw [explain]
  cases Json.parseText (Utf8.decodeLossy body) with
  | ok j =>
      simp only [Except.map]
      split <;> simp_all
  | error e => cases e <;> simp [Except.map]

/-- A body is explained if it has no more opening signs than a reader follows. -/
theorem explain_of_openings {body : List UInt8}
    (h : Json.openings (Utf8.decodeLossy body).toList ≤ Machine.textDepth) : ∃ text, explain body = .ok text := by
  cases hexplain : explain body with
  | ok text => exact ⟨text, rfl⟩
  | error container =>
      have hdepth : Machine.textDepth < _ := Json.depth_lt_openings (explain_eq_error.mp hexplain)
      omega

/-- A body that opens more arrays than a reader follows is not explained, whatever follows. -/
theorem explain_brackets {n : Nat} (h : Machine.textDepth < n) {rest : List UInt8}
    (hrest : ∀ b ∈ rest, b.toNat < 0x80) : explain (List.replicate n 0x5B ++ rest) = .error .array := by
  obtain ⟨k, rfl⟩ : ∃ k, n = Machine.textDepth + 1 + k := ⟨n - (Machine.textDepth + 1), by omega⟩
  have hascii : ∀ b ∈ List.replicate (Machine.textDepth + 1 + k) 0x5B ++ rest, b.toNat < 0x80 := by
    intro b hb
    rcases List.mem_append.mp hb with hb | hb
    · rw [List.eq_of_mem_replicate hb]
      decide
    · exact hrest b hb
  rw [explain_eq_error, Utf8.decodeLossy_ascii hascii, List.map_append, List.map_replicate, Json.parseText,
    String.toList_ofList, ← List.replicate_append_replicate, List.append_assoc]
  exact Json.parse_brackets Json.textLimits _

end Refusal

theorem Call.reword_of_ne {call : Call} {e : CallError} (h : ∀ refusal, e ≠ .refused refusal) : call.reword e = e := by
  unfold reword
  split
  · exact absurd rfl (h _)
  · rfl

@[simp] theorem Call.reword_transport (call : Call) (method target : String) (f : TransportFault) :
    call.reword (.transport method target f) = .transport method target f := reword_of_ne fun _ h => (nomatch h)

@[simp] theorem Call.reword_escaped (call : Call) (f : TransportFault) : call.reword (.escaped f) = .escaped f :=
  reword_of_ne fun _ h => (nomatch h)

@[simp] theorem Call.reword_tooDeep (call : Call) (container : Json.Container) :
    call.reword (.tooDeep container) = .tooDeep container := reword_of_ne fun _ h => (nomatch h)

@[simp] theorem Call.reword_undecodable (call : Call) (subject : Option String) (ps : List Problem)
    (body : List UInt8) : call.reword (.undecodable subject ps body) = .undecodable subject ps body :=
  reword_of_ne fun _ h => (nomatch h)

/-- A refusal is news about the network of the call, if it is about one. -/
theorem Call.reword_refused (call : Call) (refusal : Refusal) :
    call.reword (.refused refusal) = .refused (call.network?.elim refusal refusal.about) := by
  unfold reword
  cases call.network? <;> rfl

theorem Call.refuses [Machine] {call : Call} {reply : Reply} {text : String} (h : Refusal.explain reply.body = .ok text)
    {refusal : Refusal} (hrefusal : refusal =
      ⟨.general, "Docker API error: " ++ text, some reply, some reply.status, some text, none⟩) :
    Refuses call reply (call.network?.elim refusal refusal.about) := by
  have hunchanged (hnot : call.network? = none ∨ reply.status ≠ 404) :
      call.network?.elim refusal refusal.about = refusal := by
    cases hnetwork : call.network? with
    | none => rfl
    | some n =>
        rw [hnetwork] at hnot
        rcases hnot with hnot | hstatus
        · cases hnot
        · rw [Option.elim_some, Refusal.about, hrefusal, if_neg fun h => hstatus (Option.some.inj h)]
  have habout {n : String} (hnetwork : call.network? = some n) (hstatus : reply.status = 404) :
      call.network?.elim refusal refusal.about =
        ⟨.networkNotFound, "Network not found: " ++ n, some reply, some reply.status, some text, some .general⟩ := by
    rw [hnetwork, Option.elim_some, Refusal.about, hrefusal, if_pos (congrArg some hstatus)]
  by_cases hnot : call.network? = none ∨ reply.status ≠ 404
  · rw [hunchanged hnot, hrefusal]
    refine ⟨rfl, rfl, ⟨text, h, rfl⟩, fun t ht _ => ?_, fun n hn hstatus => ?_⟩
    · obtain rfl := Except.ok.inj (h.symm.trans ht)
      exact ⟨rfl, rfl⟩
    · rcases hnot with hnone | hne
      · rw [hnone] at hn
        cases hn
      · exact absurd hstatus hne
  · rw [not_or, Decidable.not_not] at hnot
    obtain ⟨hsome, hstatus⟩ := hnot
    obtain ⟨n, hn⟩ := Option.ne_none_iff_exists'.mp hsome
    rw [habout hn hstatus]
    refine ⟨rfl, rfl, ⟨text, h, rfl⟩, fun _ _ hnot => ?_, fun m hm _ => ?_⟩
    · exact absurd hnot (not_or.mpr ⟨hsome, not_not.mpr hstatus⟩)
    · obtain rfl := Option.some.inj (hn.symm.trans hm)
      exact ⟨rfl, rfl⟩

/-- What a call makes of a reply that refuses: a refusal, or a failure to read the explanation. -/
theorem Call.reword_ofReply [Machine] (call : Call) (reply : Reply) :
    (∃ refusal, call.reword (CallError.ofReply reply) = .refused refusal ∧ Refuses call reply refusal) ∨
    ∃ container, call.reword (CallError.ofReply reply) = .tooDeep container ∧
      Refusal.explain reply.body = .error container := by
  rw [CallError.ofReply, Refusal.ofReply]
  cases hexplain : Refusal.explain reply.body with
  | error container => exact .inr ⟨container, reword_tooDeep call container, rfl⟩
  | ok text => exact .inl ⟨_, reword_refused call _, refuses hexplain rfl⟩

/-! ### How calls end -/

/-- The ways in which a call can end. -/
inductive Ending
  | unencoded
  | failed
  | refused
  /-- The daemon refused, and its explanation is nested too deeply to be read. -/
  | unexplained
  /-- The reply is not what the call returns. -/
  | undecodable
  /-- The call returned what the reply says. -/
  | answered

/-- One request of an operation went out, with what carries the options, and something came back. -/
structure Exchanged [Machine] (c : Client) (d : Daemon) (op : Operation) (x : Exchange Answer) (r : Request)
    (came : Except TransportFault Reply) : Prop where
  built : r = .build op.method op.path r.query r.body
  encoded : op.payload.encode = .ok (r.query, r.body)
  carried : op.payload.Carried r.query r.body
  labelled : Request.Labelled r.body r.outgoingHeaders ∧ Request.Labelled r.body r.sentHeaders
  seen : SeesOnly r (r.target c.version) x.seen
  came : d.answer r (r.target c.version) = (came, x.seen)

/-- Only one request goes out, and only one thing comes back. -/
theorem Exchanged.unique [Machine] {c : Client} {d : Daemon} {op : Operation} {x : Exchange Answer} {r r' : Request}
    {came came' : Except TransportFault Reply} (h : Exchanged c d op x r came) (h' : Exchanged c d op x r' came') :
    came = came' := by
  obtain ⟨hquery, hbody⟩ := Prod.mk.inj (Except.ok.inj (h.encoded.symm.trans h'.encoded))
  obtain rfl : r = r' := by rw [h.built, h'.built, hquery, hbody]
  exact (Prod.mk.inj (h.came.symm.trans h'.came)).1

/-- An exchange ends in a way: the conditions of the way, and the outcome. -/
def Ends [Machine] (c : Client) (d : Daemon) (call : Call) (op : Operation) (x : Exchange Answer) : Ending → Prop
  | .unencoded => ∃ f, op.payload.encode = .error (.serialization f) ∧ x.seen = {} ∧
      x.outcome = .error (.options (.serialization f))
  | .failed => ∃ r f, Exchanged c d op x r (.error f) ∧ f.isTransport = true ∧
      x.outcome = .error (.transport r.method (r.target c.version) f)
  | .refused => ∃ r reply refusal, Exchanged c d op x r (.ok reply) ∧ 400 ≤ reply.status ∧
      Refuses call reply refusal ∧ x.outcome = .error (.refused refusal)
  | .unexplained => ∃ r reply container, Exchanged c d op x r (.ok reply) ∧ 400 ≤ reply.status ∧
      Json.parseText (Utf8.decodeLossy reply.body) = .error (.tooDeep container) ∧
      x.outcome = .error (.tooDeep container)
  | .undecodable => ∃ r reply ps, Exchanged c d op x r (.ok reply) ∧ reply.status < 400 ∧
      op.reply.read reply.body = .error ps ∧ x.outcome = .error (.undecodable op.reply.subject ps reply.body)
  | .answered => ∃ r reply v, Exchanged c d op x r (.ok reply) ∧ reply.status < 400 ∧
      op.reply.read reply.body = .ok v ∧ x.outcome = .ok (.value v)

def Ending.ofOutcome : Except CallError Answer → Option Ending
  | .ok _ => some answered
  | .error (.options _) => some unencoded
  | .error (.transport ..) => some failed
  | .error (.refused _) => some refused
  | .error (.tooDeep _) => some unexplained
  | .error (.undecodable ..) => some undecodable
  | .error _ => none

/-- An exchange ends in no way but the one that its outcome shows. -/
theorem Ends.ofOutcome [Machine] {c : Client} {d : Daemon} {call : Call} {op : Operation} {x : Exchange Answer}
    {e : Ending} (h : Ends c d call op x e) : Ending.ofOutcome x.outcome = some e := by
  cases e with
  | unencoded =>
      obtain ⟨f, -, -, houtcome⟩ := h
      rw [houtcome, Ending.ofOutcome]
  | failed =>
      obtain ⟨r, f, -, -, houtcome⟩ := h
      rw [houtcome, Ending.ofOutcome]
  | refused =>
      obtain ⟨r, reply, refusal, -, -, -, houtcome⟩ := h
      rw [houtcome, Ending.ofOutcome]
  | unexplained =>
      obtain ⟨r, reply, container, -, -, -, houtcome⟩ := h
      rw [houtcome, Ending.ofOutcome]
  | undecodable =>
      obtain ⟨r, reply, ps, -, -, -, houtcome⟩ := h
      rw [houtcome, Ending.ofOutcome]
  | answered =>
      obtain ⟨r, reply, v, -, -, -, houtcome⟩ := h
      rw [houtcome, Ending.ofOutcome]

/-- After a refusal that is nested too deeply to be explained there is no other way to end. -/
theorem Ends.eq_unexplained [Machine] {c : Client} {d : Daemon} {call : Call} {op : Operation} {x : Exchange Answer}
    {e : Ending} (h : Ends c d call op x e) {r : Request} {reply : Reply} {container : Json.Container}
    (hx : Exchanged c d op x r (.ok reply)) (hstatus : 400 ≤ reply.status)
    (hdeep : Json.parseText (Utf8.decodeLossy reply.body) = .error (.tooDeep container)) : e = .unexplained := by
  cases e with
  | unencoded =>
      obtain ⟨f, hencode, -, -⟩ := h
      rw [hx.encoded] at hencode
      cases hencode
  | failed =>
      obtain ⟨r', f, hx', -, -⟩ := h
      cases hx.unique hx'
  | refused =>
      obtain ⟨r', reply', refusal, hx', -, hrefuses, -⟩ := h
      obtain rfl := Except.ok.inj (hx.unique hx')
      obtain ⟨text, hexplain, -⟩ := hrefuses.explained
      rw [Refusal.explain_eq_error.mpr hdeep] at hexplain
      cases hexplain
  | unexplained => rfl
  | undecodable =>
      obtain ⟨r', reply', ps, hx', hlow, -, -⟩ := h
      obtain rfl := Except.ok.inj (hx.unique hx')
      omega
  | answered =>
      obtain ⟨r', reply', v, hx', hlow, -, -⟩ := h
      obtain rfl := Except.ok.inj (hx.unique hx')
      omega

/-! ### One call -/

/-- A client can make a call: the call is one of the table, its options are well-typed, its target is printed
characters, and the daemon fails, if it does, as a connection does. -/
structure Client.Admits [Machine] (c : Client) (d : Daemon) (call : Call) (op : Operation) : Prop where
  listed : call.operation? = some op
  typed : ∃ form, op.payload.holds form = true
  printed : ∀ r, call.request = .ok (some r) → (r.target c.version).toList.all isPrinted = true
  ordinary : d.isOrdinary op.method = true

namespace Call

theorem printed_of_operation {call : Call} {op : Operation} (hop : call.operation? = some op) :
    op.method.toList.all isPrinted = true := by
  cases call <;> cases hop <;> (dsimp only; decide)

/-- What a call does after its reply is decoded changes the log only. -/
theorem conclude_of_carried {call : Call} {op : Operation} (hop : call.operation? = some op) {form : TextForm}
    (htyped : op.payload.holds form = true) {query : Option (List (Value × Value))} {body : Option (List UInt8)}
    (hcarried : op.payload.Carried query body) (x : Exchange Answer) :
    (call.conclude x).outcome = x.outcome ∧ (call.conclude x).seen = x.seen := by
  unfold conclude
  split
  · rename_i options report hreport
    cases hop
    obtain ⟨-, s, hs, -⟩ := hcarried
    obtain ⟨line, hline⟩ := createdLine_of_bodyOctets htyped hs report
    rw [hline]
    exact ⟨rfl, rfl⟩
  · exact ⟨rfl, rfl⟩

end Call

namespace Client

section
variable [Machine] {c : Client} {d : Daemon} {call : Call} {op : Operation}

/-- What a call makes of what came back for its request, before it concludes. -/
def received (c : Client) (call : Call) (r : Request) (came : Except TransportFault Reply) : Except CallError Answer :=
  match came with
  | .error f => .error (call.reword (wrapFault r.method (r.target c.version) f))
  | .ok reply =>
    if 400 ≤ reply.status then .error (call.reword (CallError.ofReply reply))
    else (call.decode reply).mapError call.reword

theorem received_reply (c : Client) (call : Call) (r : Request) {reply : Reply} (h : reply.status < 400) :
    c.received call r (.ok reply) = (call.decode reply).mapError call.reword := by
  rw [received, if_neg (by omega)]

/-- A call that makes a request ends with what it makes of what came back for it. -/
theorem perform_of_request (hhost : c.address.hostFault? = none) {r : Request} (hrequest : call.request = .ok (some r)) :
    c.perform d call = call.conclude ⟨c.received call r (d.answer r (r.target c.version)).1,
      (d.answer r (r.target c.version)).2, [⟨.debug, s!"{r.method} {r.target c.version}"⟩]⟩ := by
  rw [perform, hrequest]
  simp only [send, hhost]
  generalize d.answer r (r.target c.version) = answer
  obtain ⟨came, seen⟩ := answer
  cases came with
  | error f => rfl
  | ok reply =>
      simp only [received]
      split <;> rfl

/-- A call whose options have an encoding ends with what it makes of what came back, and shows what was seen. -/
theorem perform_of_encode (hhost : c.address.hostFault? = none) (hop : call.operation? = some op) {form : TextForm}
    (htyped : op.payload.holds form = true) {query : Option (List (Value × Value))} {body : Option (List UInt8)}
    (hencode : op.payload.encode = .ok (query, body)) {r : Request} (hr : r = .build op.method op.path query body) :
    (c.perform d call).outcome = c.received call r (d.answer r (r.target c.version)).1 ∧
      (c.perform d call).seen = (d.answer r (r.target c.version)).2 := by
  have hrequest : call.request = .ok (some r) := by
    rw [Call.request_eq hop, hencode, hr]
    rfl
  rw [perform_of_request hhost hrequest]
  exact Call.conclude_of_carried hop htyped (Call.carried_of_encode hop htyped hencode) _

theorem exchanged_of_encode (hhost : c.address.hostFault? = none) (hop : call.operation? = some op) {form : TextForm}
    (htyped : op.payload.holds form = true) {query : Option (List (Value × Value))} {body : Option (List UInt8)}
    (hencode : op.payload.encode = .ok (query, body)) {r : Request} (hr : r = .build op.method op.path query body) :
    Exchanged c d op (c.perform d call) r (d.answer r (r.target c.version)).1 := by
  obtain ⟨-, hseen⟩ := perform_of_encode (d := d) hhost hop htyped hencode hr
  have hcarried := Call.carried_of_encode hop htyped hencode
  subst hr
  refine ⟨rfl, hencode, hcarried, ?_, ?_, ?_⟩
  · exact ⟨Request.labelled_outgoingHeaders .., Request.labelled_sentHeaders ..⟩
  · rw [hseen]
    exact d.seesOnly_answer _ _
  · rw [hseen]

/-- What a call makes of a fault of the transport or of a reply is an ending. -/
theorem ends_of_received (hop : call.operation? = some op) {x : Exchange Answer} {r : Request}
    {came : Except TransportFault Reply} (hx : Exchanged c d op x r came) (houtcome : x.outcome = c.received call r came)
    (hfault : ∀ f, came = .error f → f.isTransport = true) : ∃ e, Ends c d call op x e := by
  cases came with
  | error f =>
      have hf := hfault f rfl
      rw [received, wrapFault, if_pos hf, Call.reword_transport] at houtcome
      exact ⟨.failed, r, f, hx, hf, houtcome⟩
  | ok reply =>
      by_cases hstatus : 400 ≤ reply.status
      · rw [received, if_pos hstatus] at houtcome
        rcases call.reword_ofReply reply with ⟨refusal, hreword, hrefuses⟩ | ⟨container, hreword, hexplain⟩
        · rw [hreword] at houtcome
          exact ⟨.refused, r, reply, refusal, hx, hstatus, hrefuses, houtcome⟩
        · rw [hreword] at houtcome
          exact ⟨.unexplained, r, reply, container, hx, hstatus, Refusal.explain_eq_error.mp hexplain, houtcome⟩
      · have hlow : reply.status < 400 := by omega
        rw [received_reply c call r hlow, Call.decode_eq hop] at houtcome
        cases hread : op.reply.read reply.body with
        | error ps =>
            rw [hread, map_error, mapError_error, mapError_error, Call.reword_undecodable] at houtcome
            exact ⟨.undecodable, r, reply, ps, hx, hlow, hread, houtcome⟩
        | ok v =>
            rw [hread] at houtcome
            exact ⟨.answered, r, reply, v, hx, hlow, hread, houtcome⟩

/-- A call whose request fails, if it does, as a connection does ends in one of the ways. -/
theorem ends_of_isTransport (hhost : c.address.hostFault? = none) (hop : call.operation? = some op) {form : TextForm}
    (htyped : op.payload.holds form = true)
    (hfault : ∀ r f, call.request = .ok (some r) → r.method = op.method →
      (d.answer r (r.target c.version)).1 = .error f → f.isTransport = true) :
    ∃ e, Ends c d call op (c.perform d call) e := by
  cases hencode : op.payload.encode with
  | error fault =>
      obtain ⟨f, rfl⟩ := Call.serialization_of_encode hop htyped hencode
      have hperform : c.perform d call = .failed (.options (.serialization f)) := by
        rw [perform, Call.request_eq hop, hencode]
        rfl
      rw [hperform]
      exact ⟨.unencoded, f, hencode, rfl, rfl⟩
  | ok sent =>
      obtain ⟨query, body⟩ := sent
      obtain ⟨houtcome, -⟩ := perform_of_encode hhost hop htyped hencode rfl
      refine ends_of_received hop (exchanged_of_encode hhost hop htyped hencode rfl) houtcome fun f hf => ?_
      refine hfault _ f ?_ rfl hf
      rw [Call.request_eq hop, hencode]
      rfl

theorem ends_of_admits (hhost : c.address.hostFault? = none) (h : c.Admits d call op) :
    ∃ e, Ends c d call op (c.perform d call) e := by
  obtain ⟨form, htyped⟩ := h.typed
  refine ends_of_isTransport hhost h.listed htyped fun r f hrequest hmethod hf => ?_
  refine Daemon.isTransport_of_answer (hmethod ▸ h.ordinary) (Request.lineFault?_eq_none ?_ ?_) hf
  · rw [hmethod]
    exact Call.printed_of_operation h.listed
  · exact h.printed r hrequest

/-! ### Sessions -/

/-- The exchanges of calls one after another, each with the daemon as it meets it. -/
def session (c : Client) (script : List (Daemon × Call)) : List (Exchange Answer) :=
  script.map fun s => c.perform s.1 s.2

/-- An exchange of a call ends in exactly one way, and without an explanation exactly if the daemon refused with a body
that is nested more deeply than a reader follows. -/
def EndsOnce (c : Client) (d : Daemon) (call : Call) (x : Exchange Answer) : Prop :=
  ∃ op, call.operation? = some op ∧ (∃! e, Ends c d call op x e) ∧
    (Ends c d call op x .unexplained ↔ ∃ r reply container, Exchanged c d op x r (.ok reply) ∧ 400 ≤ reply.status ∧
      Json.parseText (Utf8.decodeLossy reply.body) = .error (.tooDeep container))

theorem endsOnce_of_admits (hhost : c.address.hostFault? = none) (h : c.Admits d call op) :
    EndsOnce c d call (c.perform d call) := by
  obtain ⟨e, he⟩ := ends_of_admits hhost h
  have hunique {e' : Ending} (he' : Ends c d call op (c.perform d call) e') : e' = e :=
    Option.some.inj (he'.ofOutcome.symm.trans he.ofOutcome)
  refine ⟨op, h.listed, ⟨e, he, fun e' he' => hunique he'⟩, ?_, ?_⟩
  · rintro ⟨r, reply, container, hx, hstatus, hdeep, -⟩
    exact ⟨r, reply, container, hx, hstatus, hdeep⟩
  · rintro ⟨r, reply, container, hx, hstatus, hdeep⟩
    rwa [← he.eq_unexplained hx hstatus hdeep]

/-- **Every call of a session ends in exactly one way**, whatever calls came before it. -/
theorem session_ends (hhost : c.address.hostFault? = none) {script : List (Daemon × Call)}
    (h : ∀ s ∈ script, ∃ op, c.Admits s.1 s.2 op) :
    List.Forall₂ (fun s x => EndsOnce c s.1 s.2 x) script (c.session script) := by
  induction script with
  | nil => exact .nil
  | cons s rest ih =>
      obtain ⟨⟨op, hs⟩, hrest⟩ := List.forall_mem_cons.mp h
      exact .cons (endsOnce_of_admits hhost hs) (ih hrest)

end

def ofSocket : Client := ⟨.socket "/var/run/docker.sock", .int 60, .null⟩

/-- A session: the daemon hangs up, knows no such network, and tells of one. -/
def lookups : List (Daemon × Call) :=
  [(.speaking [] none, .list none), (.scripted ⟨404, [], []⟩ none, .remove "n"),
    (.scripted ⟨200, Utf8.encode "\x7b\x7d", []⟩ none, .inspect "n"
      (some (.record .inspectOptions .characters [("verbose", .bool true), ("scope", .text "local")] [])))]

theorem session_ends_lookups :
    List.Forall₂ (fun s x => EndsOnce ofSocket s.1 s.2 x) lookups (ofSocket.session lookups) := by
  apply session_ends rfl
  intro s hs
  simp only [lookups, List.mem_cons, List.not_mem_nil, or_false] at hs
  rcases hs with rfl | rfl | rfl
  all_goals
    refine ⟨_, rfl, ⟨.characters, rfl⟩, fun r h => ?_, rfl⟩
    cases h
    decide

/-- A refusal whose explanation cannot be read is none to the caller. -/
theorem outcome_of_explain_error [Machine] (c : Client) (hhost : c.address.hostFault? = none) (network : String)
    {reply : Reply} (hstatus : 400 ≤ reply.status) {container : Json.Container}
    (h : Refusal.explain reply.body = .error container) :
    (c.perform (.scripted reply none) (.remove network)).outcome = .error (.tooDeep container) := by
  have hofReply : CallError.ofReply ⟨reply.status, reply.body, Header.collect reply.headers⟩ = .tooDeep container := by
    rw [CallError.ofReply, Refusal.ofReply, h]
    rfl
  have hrequest : (Call.remove network).request =
      .ok (some (.build "DELETE" (Call.networkPath network) none none)) := rfl
  rw [perform, hrequest]
  simp only [send, hhost, Daemon.answer, if_pos hstatus, hofReply]
  rfl

def brackets : List UInt8 := List.replicate 1500 0x5B ++ List.replicate 1500 0x5D

theorem session_brackets :
    ∃ x, ofSocket.session [(.scripted ⟨500, brackets, []⟩ none, .remove "n")] = [x] ∧
      x.outcome = .error (.tooDeep .array) ∧
      ∀ op e, Ends ofSocket (.scripted ⟨500, brackets, []⟩ none) (.remove "n") op x e → e = .unexplained := by
  have hexplain : Refusal.explain brackets = .error .array := by
    apply Refusal.explain_brackets (by decide)
    intro b hb
    rw [List.eq_of_mem_replicate hb]
    decide
  have hstatus : 400 ≤ (⟨500, brackets, []⟩ : Reply).status := by decide
  have houtcome := outcome_of_explain_error ofSocket rfl "n" hstatus hexplain
  refine ⟨ofSocket.perform (.scripted ⟨500, brackets, []⟩ none) (.remove "n"), rfl, houtcome, fun op e h => ?_⟩
  have hshown := h.ofOutcome
  rw [houtcome] at hshown
  exact (Option.some.inj hshown).symm

end Client

end DaemonClient
