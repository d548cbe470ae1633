import DaemonClient.Proofs.Serialization
import DaemonClient.Proofs.Shown
import DaemonClient.Proofs.Statuses

/-! How a creation ends once the daemon has made the network and says so (`create_ends`). The report is returned exactly
if the options hold a name that can be shown; without one the call fails although the network is there. A name that
went out in the body can be shown unless it holds records, of which a body tells only a part. Options that begin with a
name hold one in every state that edits leave them in (`ReachedWith.holds`). -/

namespace DaemonClient
open Outcome

namespace Value

/-! ### What can be shown -/

theorem haveLiterals_iff {xs : List Value} : haveLiterals xs = true ↔ ∀ x ∈ xs, x.hasLiteral = true := by
  induction xs with
  | nil => simp [haveLiterals]
  | cons x xs ih => rw [haveLiterals, Bool.and_eq_true, ih, List.forall_mem_cons]

theorem entriesHaveLiterals_iff {es : Entries} :
    entriesHaveLiterals es = true ↔ ∀ e ∈ es, e.1.hasLiteral = true ∧ e.2.hasLiteral = true := by
  induction es with
  | nil => simp [entriesHaveLiterals]
  | cons e es ih => rw [entriesHaveLiterals, Bool.and_eq_true, Bool.and_eq_true, ih, List.forall_mem_cons]

/-- What can be written as JSON can be shown. -/
theorem hasLiteral_of_isWritable {v : Value} (h : v.isWritable = true) : v.hasLiteral = true := by
  induction v with
  | int n => exact h
  | list xs ih => exact haveLiterals_iff.mpr fun x hx => ih x hx (isWritable_list.mp h x hx)
  | tuple xs ih => exact haveLiterals_iff.mpr fun x hx => ih x hx ((every_tuple.mp h).2 x hx)
  | map es ih =>
      obtain ⟨-, hes⟩ := every_map.mp h
      exact entriesHaveLiterals_iff.mpr fun e he => ⟨(ih e he).1 (hes e he).1, (ih e he).2 (hes e he).2⟩
  | record => cases h
  | _ => rfl

/-- A value that can be written if it is data reads as text, and can be shown exactly if its text can. -/
theorem exists_asText {v : Value} (h : v.noRecords = true → v.isWritable = true) :
    ∃ t, v.asText = .ok t ∧ t.hasLiteral = v.hasLiteral := by
  cases v with
  | octets holder bs =>
      obtain ⟨j, hj⟩ := encode_iff.mpr (h rfl)
      obtain ⟨t, htext, -⟩ := encode_eq_ok.mp hj
      obtain ⟨s, -, rfl⟩ := map_eq_ok.mp htext
      exact ⟨text s, htext, rfl⟩
  | _ => exact ⟨_, rfl, rfl⟩

/-- Data in a declared field of a record that has a body can be written. -/
theorem isWritable_of_bodyOctets {kind : RecordKind} {form : TextForm} {fs ns : Named} {bs : List UInt8}
    (h : (record kind form fs ns).bodyOctets = .ok bs) {d : Slot × Shape} (hd : d ∈ kind.fields) {x : Value}
    (hx : fs.lookup d.1.attr = some x) (hdata : x.noRecords = true) : x.isWritable = true := by
  by_cases hnull : x = null
  · rw [hnull]
    rfl
  have hwritable : (record kind form fs ns).toWire.isWritable = true := by
    by_contra hnot
    obtain ⟨f, hf⟩ := (settled_bodyOctets kind form fs ns).refused (Bool.eq_false_iff.mpr hnot)
    rw [hf] at h
    cases h
  rw [toWire, wireIn_record] at hwritable
  have hnames : Shape.namesSound kind.fields := by
    have hsound := kind.sound_shape
    rw [kind.shape_eq] at hsound
    exact (Shape.sound_record.mp hsound).1
  have hmem := (mem_wireFields hnames).mpr ⟨d, hd, x, Named.mem_of_lookup hx, hnull, rfl⟩
  rw [wireIn_of_noRecords hdata] at hmem
  exact ((isWritable_map.mp hwritable).2 _ hmem).2

end Value

/-! ### Fields that stay -/

namespace RecordKind

variable {kind : RecordKind} {s : Slot}

/-- The states of a record that begins with something in a field: as a check makes it, as it is made without any check
from entries that give the field, and as edits leave it that do not replace all it holds. -/
inductive ReachedWith (kind : RecordKind) (s : Slot) : Value → Prop
  | checked {form : TextForm} {v r : Value} (made : kind.accepts (kind.formOf form) v = false)
      (check : kind.check form v = .ok r) : kind.ReachedWith s r
  | unchecked (form : TextForm) {es : Entries} (given : (s.find? es).isSome = true) :
      kind.ReachedWith s (kind.unchecked form es)
  | edited {r r' : Value} {path : List Value} {new : Value} (before : kind.ReachedWith s r)
      (partly : path ≠ [.text Record.holdingsName]) (edit : r.edit path new = .ok r') : kind.ReachedWith s r'

/-- A record of the kind that holds something in a field. -/
def Holds (kind : RecordKind) (s : Slot) (r : Value) : Prop :=
  ∃ form fs ns, r = .record kind form fs ns ∧ s.attr ∈ fs.map (·.1)

theorem holds_field_of_check (hs : s ∈ kind.slots) {form : TextForm} {v r : Value}
    (hmade : kind.accepts (kind.formOf form) v = false) (h : kind.check form v = .ok r) : kind.Holds s r := by
  obtain ⟨form, fs, rfl, hattrs⟩ := attrs_of_check hmade h
  refine ⟨form, fs, [], rfl, ?_⟩
  rw [hattrs]
  exact List.mem_map.mpr ⟨s, hs, rfl⟩

theorem holds_field_unchecked (hs : s ∈ kind.slots) (form : TextForm) {es : Entries}
    (hgiven : (s.find? es).isSome = true) : kind.Holds s (kind.unchecked form es) := by
  obtain ⟨⟨name, v⟩, hv⟩ := Option.isSome_iff_exists.mp hgiven
  have htaken : s.takeUnchecked es = some (s.attr, v) := by rw [Slot.takeUnchecked, hv]
  exact ⟨_, _, [], rfl, List.mem_map.mpr ⟨_, List.mem_filterMap.mpr ⟨s, hs, htaken⟩, rfl⟩⟩

theorem holds_field_of_edit (hs : s ∈ kind.slots) {r r' new : Value} {path : List Value} (h : kind.Holds s r)
    (hpath : path ≠ [.text Record.holdingsName]) (hedit : r.edit path new = .ok r') : kind.Holds s r' := by
  obtain ⟨form, fs, ns, rfl, hfs⟩ := h
  obtain ⟨fs', ns', rfl, hkeeps⟩ := Value.keepsFields_of_edit hpath hedit
  exact ⟨form, fs', ns', rfl, hkeeps s.attr hfs (declares_of_mem hs)⟩

/-- **A record that begins with something in a field holds something there in every state.** -/
theorem ReachedWith.holds (hs : s ∈ kind.slots) {r : Value} (h : kind.ReachedWith s r) : kind.Holds s r := by
  induction h with
  | checked made check => exact holds_field_of_check hs made check
  | unchecked form given => exact holds_field_unchecked hs form given
  | edited _ partly edit ih => exact holds_field_of_edit hs ih partly edit

theorem Holds.field? {r : Value} (h : kind.Holds s r) : ∃ x, r.field? s.attr = some x := by
  obtain ⟨form, fs, ns, rfl, hfs⟩ := h
  exact Named.exists_lookup hfs

end RecordKind

/-! ### The end of a creation -/

/-- The field of options of creation that holds the name of the network. -/
def Shape.nameField : Slot × Shape := required "name" "Name" .text

namespace Call

variable {options report name text : Value}

theorem createdLine_nameless (h : options.field? "name" = none) :
    createdLine options report = .error (.options (.absent options.typeName "name")) := by
  have hneeded : options.needed "name" = .error (.absent options.typeName "name") := by rw [Value.needed, h]
  rw [createdLine, hneeded, mapError_error, bind_error]

/-- Options with a name that reads as text can be told of exactly if the text can be told. -/
theorem createdLine_named (h : options.field? "name" = some name) (htext : name.asText = .ok text) {α : Type} (a : α) :
    (createdLine options report).map (fun _ => a) = (text.told.mapError .unreadable).map fun _ => a := by
  rw [createdLine, Value.needed_of_field? h, mapError_ok, bind_ok, htext, mapError_ok, bind_ok]
  cases text.told <;> rfl

/-- A creation ends with its report if it can be told of, and else with the want of what to tell. -/
theorem conclude_create {x : Exchange Answer} (h : x.outcome = .ok (.value report)) :
    ((create options).conclude x).outcome = (createdLine options report).map fun _ => .value report := by
  simp only [conclude, h]
  cases createdLine options report <;> rfl

end Call

/-- How a creation ends that the daemon answers with a report. -/
structure CreationEnds (options report : Value) (x : Exchange Answer) : Prop where
  returned : x.outcome = .ok (.value report) ↔ ∃ name, options.field? "name" = some name ∧ name.hasLiteral = true
  /-- Without a name it fails for want of one, although the network is there. -/
  nameless : options.field? "name" = none → x.outcome = .error (.options (.absent options.typeName "name"))
  /-- A name with an integer of too many digits in it cannot be told. -/
  untold : ∀ name, options.field? "name" = some name → name.hasLiteral = false →
    x.outcome = .error (.unreadable .tooManyDigits)
  /-- A name that is data can be told, since it is in the body. -/
  data : ∀ name, options.field? "name" = some name → name.noRecords = true → name.hasLiteral = true
  /-- Options that begin with a name hold one in every state. -/
  named : RecordKind.createOptions.ReachedWith Shape.nameField.1 options → ∃ name, options.field? "name" = some name

namespace Client

variable {c : Client} {d : Daemon} {form : TextForm} {fs ns : Named} {r : Request} {reply : Reply}
  {options report : Value}

theorem outcome_of_created [Machine] (h : Answered c d (.create options) r reply) (hstatus : reply.status < 400)
    (hreport : reply.decodeRecord .createReport = .ok report) :
    (c.perform d (.create options)).outcome = (Call.createdLine options report).map fun _ => .value report := by
  rw [perform_of_request h.host h.request]
  apply Call.conclude_create
  change c.received (.create options) r (d.answer r (r.target c.version)).1 = _
  rw [h.came, received_reply c _ r hstatus, Call.decode, hreport]
  rfl

/-- A creation was sent with a body. -/
theorem bodyOctets_of_answered [Machine] (h : Answered c d (.create options) r reply) :
    ∃ bs, options.bodyOctets = .ok bs := by
  obtain ⟨bs, hbs, -⟩ := bind_eq_ok.mp h.request
  exact ⟨bs, hbs⟩

/-- With a name a creation ends by whether the name can be shown. -/
theorem outcome_of_named [Machine] (h : Answered c d (.create (.record .createOptions form fs ns)) r reply)
    (hstatus : reply.status < 400) (hreport : reply.decodeRecord .createReport = .ok report) {name : Value}
    (hname : (Value.record .createOptions form fs ns).field? "name" = some name) :
    (c.perform d (.create (.record .createOptions form fs ns))).outcome =
      if name.hasLiteral then .ok (.value report) else .error (.unreadable .tooManyDigits) := by
  obtain ⟨bs, hbody⟩ := bodyOctets_of_answered h
  obtain ⟨text, htext, hliteral⟩ :=
    Value.exists_asText (Value.isWritable_of_bodyOctets hbody (d := Shape.nameField) List.mem_cons_self hname)
  rw [outcome_of_created h hstatus hreport, Call.createdLine_named hname htext, Value.told, hliteral]
  cases name.hasLiteral <;> rfl

/-- **A creation that the daemon answers with a report returns it exactly if the options hold a name that can be
shown.** -/
theorem create_ends [Machine] (h : Answered c d (.create (.record .createOptions form fs ns)) r reply)
    (hstatus : reply.status < 400) (hreport : reply.decodeRecord .createReport = .ok report) :
    CreationEnds (.record .createOptions form fs ns) report
      (c.perform d (.create (.record .createOptions form fs ns))) where
  returned := by
    constructor
    · intro hreturned
      cases hname : (Value.record .createOptions form fs ns).field? "name" with
      | none =>
          rw [outcome_of_created h hstatus hreport, Call.createdLine_nameless hname] at hreturned
          cases hreturned
      | some name =>
          refine ⟨name, rfl, ?_⟩
          by_contra hnot
          rw [outcome_of_named h hstatus hreport hname, if_neg hnot] at hreturned
          cases hreturned
    · rintro ⟨name, hname, hliteral⟩
      rw [outcome_of_named h hstatus hreport hname, if_pos hliteral]
  nameless hname := by
    rw [outcome_of_created h hstatus hreport, Call.createdLine_nameless hname]
    rfl
  untold name hname hliteral := by
    rw [outcome_of_named h hstatus hreport hname, hliteral]
    rfl
  data name hname hdata := by
    obtain ⟨bs, hbody⟩ := bodyOctets_of_answered h
    apply Value.hasLiteral_of_isWritable
    exact Value.isWritable_of_bodyOctets hbody (d := Shape.nameField) List.mem_cons_self hname hdata
  named hreached := (hreached.holds List.mem_cons_self).field?

/-- A reply that tells of a network that was created. -/
def createdReply : Reply := ⟨201, Utf8.encode (Json.object [("Id", .text "x")]).render, []⟩

/-- A daemon that creates a network whatever it is asked for. -/
def creator : Daemon := .scripted createdReply none

theorem exists_createReport : ∃ report, createdReply.decodeRecord .createReport = .ok report := by
  rw [Reply.decodeRecord, RecordKind.read, createdReply, Check.document_render (by decide), bind_ok]
  exact ⟨_, rfl⟩

theorem exists_answered [Machine] (h : (Value.record .createOptions form fs ns).toWire.isWritable = true) :
    ∃ r, Answered ofSocket creator (.create (.record .createOptions form fs ns)) r createdReply := by
  obtain ⟨bs, hbs⟩ := (Value.settled_bodyOctets .createOptions form fs ns).made h
  exact ⟨.build "POST" "/networks/create" none (some bs), by rw [Call.request, hbs, bind_ok]; rfl, rfl, rfl⟩

/-- Options of creation with a name in octets, made without any check. -/
def octetNamed : Value := RecordKind.createOptions.unchecked .octets [(.text "name", .octets .fixed [0x6E])]

theorem create_ends_octetNamed :
    ∃ r report, Answered ofSocket creator (.create octetNamed) r createdReply ∧
      createdReply.status < 400 ∧ createdReply.decodeRecord .createReport = .ok report ∧
      CreationEnds octetNamed report (ofSocket.perform creator (.create octetNamed)) ∧
      (ofSocket.perform creator (.create octetNamed)).outcome = .ok (.value report) := by
  obtain ⟨r, hanswered⟩ : ∃ r, Answered ofSocket creator (.create octetNamed) r createdReply :=
    exists_answered (by decide +kernel)
  obtain ⟨report, hreport⟩ := exists_createReport
  have hstatus : createdReply.status < 400 := by decide
  have hends : CreationEnds octetNamed report (ofSocket.perform creator (.create octetNamed)) :=
    create_ends hanswered hstatus hreport
  exact ⟨r, report, hanswered, hstatus, hreport, hends, hends.returned.mpr ⟨.octets .fixed [0x6E], rfl, rfl⟩⟩

/-- Options of creation without a name, made without any check. -/
def nameless : Value := RecordKind.createOptions.unchecked .characters []

/-- The network of options without a name is made, and the creation fails. -/
theorem create_nameless :
    ∃ r report, Answered ofSocket creator (.create nameless) r createdReply ∧
      createdReply.decodeRecord .createReport = .ok report ∧
      (ofSocket.perform creator (.create nameless)).outcome =
        .error (.options (.absent "CreateNetworkOptions[str]" "name")) := by
  obtain ⟨r, hanswered⟩ : ∃ r, Answered ofSocket creator (.create nameless) r createdReply :=
    exists_answered (by decide +kernel)
  obtain ⟨report, hreport⟩ := exists_createReport
  refine ⟨r, report, hanswered, hreport, ?_⟩
  rw [outcome_of_created hanswered (by decide) hreport, Call.createdLine_nameless rfl]
  rfl

end Client

end DaemonClient
