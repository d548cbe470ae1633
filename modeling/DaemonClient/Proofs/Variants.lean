import DaemonClient.Client.Calls
import DaemonClient.Proofs.Checked
import Mathlib.Data.List.Nodup
import Mathlib.Logic.Relation

/-! What a report says depends on its known members that are not null, and on nothing else (`decodes_alike`). A change
is immaterial if it adds or removes a null member of a report or a member that no field of its record has the name of,
puts the members of a record in another order, or gives address settings an empty list of subnets for null. Bodies
whose data differ by such changes, in whatever number and at whatever depth, become the same record or have the same
problems. -/

namespace DaemonClient
open Outcome

/-! ### Members under a name -/

namespace Entries

theorem getText?_append (es es' : Entries) (name : String) :
    (es ++ es').getText? name = (es'.getText? name).or (es.getText? name) := by
  simp only [getText?, get?, List.reverse_append, List.find?_append, Option.map_or]

theorem getText?_singleton (name name' : String) (v : Value) :
    getText? [(.text name, v)] name' = if name' = name then some v else none := by
  rw [getText?, get?, List.reverse_singleton, List.find?_singleton, Value.same_text]
  by_cases h : name' = name <;> simp [h]

/-- A member in the midst of others: what follows it goes before it, and it goes before what it follows. -/
theorem getText?_middle (before after : Entries) (name name' : String) (v : Value) :
    getText? (before ++ (.text name, v) :: after) name' =
      (after.getText? name').or ((if name' = name then some v else none).or (before.getText? name')) := by
  rw [List.append_cons, getText?_append, getText?_append, getText?_singleton]

theorem getText?_middle_of_ne {before after : Entries} {name name' : String} {v : Value} (h : name' ≠ name) :
    getText? (before ++ (.text name, v) :: after) name' = (before ++ after).getText? name' := by
  rw [getText?_middle, if_neg h, getText?_append, Option.none_or]

/-- The order of members with different names does not matter to what is found under a name. -/
theorem getText?_perm {es es' : Entries} (h : es.Perm es') (hes : es.Distinct) (hes' : es'.Distinct) (name : String) :
    es.getText? name = es'.getText? name := by
  by_cases hname : ∃ v, (.text name, v) ∈ es
  · obtain ⟨v, hv⟩ := hname
    rw [getText?_of_mem hes hv, getText?_of_mem hes' (h.mem_iff.mp hv)]
  · have hnone : ∀ e ∈ es, e.1 ≠ .text name := fun e he heq => hname ⟨e.2, heq ▸ he⟩
    rw [getText?_eq_none hnone, getText?_eq_none fun e he => hnone e (h.mem_iff.mpr he)]

end Entries

namespace Slot

/-- A name that the field may be given under. -/
def named (s : Slot) (name : String) : Prop := name = s.wire ∨ name = s.attr

instance (s : Slot) (name : String) : Decidable (s.named name) := inferInstanceAs (Decidable (_ ∨ _))

theorem find?_congr {s : Slot} {es es' : Entries} (h : ∀ name, s.named name → es.getText? name = es'.getText? name) :
    s.find? es = s.find? es' := by
  rw [find?, find?, h _ (.inl rfl), h _ (.inr rfl)]

/-- Another value of one member is a difference to a field only where the field is given by that member. -/
theorem find?_middle (s : Slot) (before after : Entries) (name : String) (v w : Value) :
    s.find? (before ++ (.text name, v) :: after) = s.find? (before ++ (.text name, w) :: after) ∨
    s.named name ∧ s.find? (before ++ (.text name, v) :: after) = some (name, v) ∧
      s.find? (before ++ (.text name, w) :: after) = some (name, w) := by
  have hother (name' : String) (h : name' ≠ name) : Entries.getText? (before ++ (.text name, v) :: after) name' =
      Entries.getText? (before ++ (.text name, w) :: after) name' := by
    rw [Entries.getText?_middle_of_ne h, Entries.getText?_middle_of_ne h]
  have hhere (x : Value) : Entries.getText? (before ++ (.text name, x) :: after) name =
      (after.getText? name).or (some x) := by
    rw [Entries.getText?_middle, if_pos rfl, Option.some_or]
  simp only [find?]
  by_cases hwire : s.wire = name
  · rw [hwire, hhere, hhere]
    cases after.getText? name with
    | some x => exact .inl rfl
    | none => exact .inr ⟨.inl hwire.symm, rfl, rfl⟩
  rw [hother s.wire hwire]
  cases Entries.getText? (before ++ (.text name, w) :: after) s.wire with
  | some x => exact .inl rfl
  | none =>
      by_cases hattr : s.attr = name
      · rw [hattr, hhere, hhere]
        cases after.getText? name with
        | some x => exact .inl rfl
        | none => exact .inr ⟨.inr hattr.symm, rfl, rfl⟩
      · rw [hother s.attr hattr]
        exact .inl rfl

end Slot

/-! ### Checks that see no difference -/

namespace Check

theorem items_congr {check : Value → Check Value} {xs ys : List Value} (h : xs.map check = ys.map check) (i : Nat) :
    items check i xs = items check i ys := by
  induction xs generalizing i ys with
  | nil => rw [List.map_eq_nil_iff.mp h.symm]
  | cons x xs ih =>
      obtain ⟨y, ys, rfl, hy, hys⟩ := List.map_eq_cons_iff.mp h.symm
      rw [items, items, hy, ih hys.symm]

theorem entries_congr {form : TextForm} {check : Value → Check Value} {es es' : Entries}
    (h : (es.map fun e => (e.1, check e.2)) = es'.map fun e => (e.1, check e.2)) :
    entries form check es = entries form check es' := by
  induction es generalizing es' with
  | nil => rw [List.map_eq_nil_iff.mp h.symm]
  | cons e es ih =>
      obtain ⟨e', es', rfl, he, hes⟩ := List.map_eq_cons_iff.mp h.symm
      obtain ⟨hkey, hval⟩ := Prod.mk.inj he
      rw [entries, entries, hkey, hval, ih hes.symm]

end Check

namespace RecordKind

/-- An entry of a map that counts for a record of the kind. -/
def counts (kind : RecordKind) (e : Value × Value) : Bool :=
  match e.2 with
  | .null => !kind.isReport
  | _ => true

theorem counts_of_ne_null (kind : RecordKind) {k v : Value} (h : v ≠ .null) : kind.counts (k, v) = true := by
  cases v with
  | null => exact absurd rfl h
  | _ => rfl

theorem offer?_map (kind : RecordKind) (es : Entries) : kind.offer? (.map es) = some (es.filter kind.counts) := by
  rw [offer?]
  split
  · rename_i h
    refine congrArg some (List.filter_congr fun e _ => ?_)
    rw [counts]
    cases e.2 <;> simp [h]
  · rename_i h
    refine congrArg some (List.filter_eq_self.mpr fun e _ => ?_).symm
    rw [counts]
    cases e.2 <;> simp [h]

end RecordKind

namespace Shape

variable {form : TextForm} {kind : RecordKind} {fields : List (Slot × Shape)} {es es' : Entries}

theorem checkField_congr {d : Slot × Shape} (h : d.1.find? es = d.1.find? es') :
    checkField form es d = checkField form es' d := by
  rw [checkField, checkField, h]

theorem checkFields_congr (h : ∀ d ∈ fields, checkField form es d = checkField form es' d) :
    checkFields form fields es = checkFields form fields es' := by
  induction fields with
  | nil => rfl
  | cons d fields ih =>
      obtain ⟨hd, hrest⟩ := List.forall_mem_cons.mp h
      rw [checkFields_cons, checkFields_cons, hd, ih hrest]

/-- Of a map a record looks at the entries that count for it. -/
theorem check_record_map (form : TextForm) (kind : RecordKind) (fields : List (Slot × Shape)) (es : Entries) :
    check form (.record kind fields) (.map es) =
      (fun fs => .record kind form fs []) <$> checkFields form fields (es.filter kind.counts) := by
  have haccepts : kind.accepts form (.map es) = false := rfl
  simp only [check, haccepts, Bool.false_eq_true, if_false, RecordKind.offer?_map]

/-- Data that is the same to each field is the same to the record. -/
theorem check_record_congr (h : ∀ d ∈ fields,
    checkField form (es.filter kind.counts) d = checkField form (es'.filter kind.counts) d) :
    check form (.record kind fields) (.map es) = check form (.record kind fields) (.map es') := by
  rw [check_record_map, check_record_map, checkFields_congr h]

/-- Of two fields with sound names one is not given under a name of the other. -/
theorem eq_of_named (hnames : namesSound fields) {d d' : Slot × Shape} (hd : d ∈ fields) (hd' : d' ∈ fields)
    {name : String} (h : d.1.named name) (h' : d'.1.named name) : d' = d := by
  obtain ⟨hattrs, hwires, hapart⟩ := hnames
  rcases h with h | h <;> rcases h' with h' | h'
  · exact List.inj_on_of_nodup_map hwires hd' hd (h'.symm.trans h)
  · exact absurd (h.symm.trans h') (hapart d hd d' hd')
  · exact absurd (h'.symm.trans h) (hapart d' hd' d hd)
  · exact List.inj_on_of_nodup_map hattrs hd' hd (h'.symm.trans h)

/-- Another value of a member is no difference to a record if it is none to the field of that name. -/
theorem check_record_middle (hnames : namesSound fields) {d : Slot × Shape} (hd : d ∈ fields) {name : String}
    (hname : d.1.named name) {v w : Value} (before after : Entries) (hv : kind.counts (.text name, v) = true)
    (hw : kind.counts (.text name, w) = true)
    (h : check form d.2 (d.1.normalise v) = check form d.2 (d.1.normalise w)) :
    check form (.record kind fields) (.map (before ++ (.text name, v) :: after)) =
      check form (.record kind fields) (.map (before ++ (.text name, w) :: after)) := by
  refine check_record_congr fun d' hd' => ?_
  simp only [List.filter_append, List.filter_cons, hv, hw, if_true]
  rcases d'.1.find?_middle (before.filter kind.counts) (after.filter kind.counts) name v w with
    hsame | ⟨hname', hfind, hfind'⟩
  · exact checkField_congr hsame
  · obtain rfl := eq_of_named hnames hd hd' hname hname'
    rw [checkField, checkField, hfind, hfind']
    exact congrArg (Check.under (.name name)) h

end Shape

/-! ### Immaterial changes -/

/-- One change to data that makes no difference to what a check for a shape makes of it. -/
inductive Immaterial : Shape → Value → Value → Prop
  /-- A report loses a null member. -/
  | unset {kind : RecordKind} {fields : List (Slot × Shape)} (report : kind.isReport = true) (before after : Entries)
      (name : String) :
    Immaterial (.record kind fields) (.map (before ++ (.text name, .null) :: after)) (.map (before ++ after))
  /-- A record loses a member that no field has the name of. -/
  | unknown {kind : RecordKind} {fields : List (Slot × Shape)} (before after : Entries) {name : String}
      (unnamed : ∀ d ∈ fields, ¬ d.1.named name) (v : Value) :
    Immaterial (.record kind fields) (.map (before ++ (.text name, v) :: after)) (.map (before ++ after))
  /-- The members of a record are put in another order. -/
  | reordered {kind : RecordKind} {fields : List (Slot × Shape)} {es es' : Entries} (order : es.Perm es') :
    Immaterial (.record kind fields) (.map es) (.map es')
  /-- Address settings are given an empty list of subnets in place of null. -/
  | emptied {fields : List (Slot × Shape)} {d : Slot × Shape} (mem : d ∈ fields) (empty : d.1.nullMeansEmpty = true)
      {name : String} (named : d.1.named name) (before after : Entries) :
    Immaterial (.record .addressSettings fields) (.map (before ++ (.text name, .null) :: after))
      (.map (before ++ (.text name, .list []) :: after))
  /-- A change to what a field is given. -/
  | member {kind : RecordKind} {fields : List (Slot × Shape)} {d : Slot × Shape} (mem : d ∈ fields) {name : String}
      (named : d.1.named name) (before after : Entries) {v w : Value} (inner : Immaterial d.2 v w) :
    Immaterial (.record kind fields) (.map (before ++ (.text name, v) :: after))
      (.map (before ++ (.text name, w) :: after))
  /-- A change to an item of a list. -/
  | item {s : Shape} (before after : List Value) {v w : Value} (inner : Immaterial s v w) :
    Immaterial (.list s) (.list (before ++ v :: after)) (.list (before ++ w :: after))
  /-- A change to what a key of a map leads to. -/
  | entry {s : Shape} (before after : Entries) (k : Value) {v w : Value} (inner : Immaterial s v w) :
    Immaterial (.map s) (.map (before ++ (k, v) :: after)) (.map (before ++ (k, w) :: after))

namespace Immaterial

variable {form : TextForm} {s : Shape} {v w : Value}

theorem ne_null (h : Immaterial s v w) : v ≠ .null ∧ w ≠ .null := by
  cases h <;> exact ⟨Value.noConfusion, Value.noConfusion⟩

theorem keysOnce_middle {before after : Entries} {k : Value}
    (h : (Value.map (before ++ (k, v) :: after)).keysOnce = true) : v.keysOnce = true :=
  ((Value.every_map.mp h).2 _ (List.mem_append_right _ List.mem_cons_self)).2

/-- **An immaterial change makes no difference to a check**: the same result, or the same problems. -/
theorem check_eq (hs : s.sound = true) (hv : v.keysOnce = true) (hw : w.keysOnce = true) (h : Immaterial s v w) :
    Shape.check form s v = Shape.check form s w := by
  induction h with
  | @unset kind _ report before after name =>
      refine Shape.check_record_congr fun d _ => ?_
      have hdrop : kind.counts (.text name, .null) = false := by rw [RecordKind.counts, report]; rfl
      simp only [List.filter_append, List.filter_cons, hdrop, Bool.false_eq_true, if_false]
  | @unknown kind _ before after name unnamed v =>
      refine Shape.check_record_congr fun d hd => Shape.checkField_congr (Slot.find?_congr fun name' hname' => ?_)
      have hne : name' ≠ name := fun heq => unnamed d hd (heq ▸ hname')
      simp only [List.filter_append, List.filter_cons]
      split
      · exact Entries.getText?_middle_of_ne hne
      · rfl
  | @reordered kind _ es es' order =>
      have hes : es.Distinct := of_decide_eq_true (Value.every_map.mp hv).1
      have hes' : es'.Distinct := of_decide_eq_true (Value.every_map.mp hw).1
      refine Shape.check_record_congr fun d _ => Shape.checkField_congr (Slot.find?_congr fun name _ => ?_)
      exact Entries.getText?_perm (order.filter _) (hes.sublist List.filter_sublist)
        (hes'.sublist List.filter_sublist) name
  | emptied mem empty named before after =>
      refine Shape.check_record_middle (Shape.sound_record.mp hs).1 mem named before after rfl rfl ?_
      simp only [Slot.normalise, if_pos empty]
      rfl
  | @member kind fields d mem name named before after v w inner ih =>
      obtain ⟨hnames, -, hfields⟩ := Shape.sound_record.mp hs
      have hv := keysOnce_middle hv
      have hw := keysOnce_middle hw
      obtain ⟨hvnull, hwnull⟩ := inner.ne_null
      refine Shape.check_record_middle hnames mem named before after (kind.counts_of_ne_null hvnull)
        (kind.counts_of_ne_null hwnull) ?_
      rw [Value.normalise_of_keysOnce d.1 hv hvnull, Value.normalise_of_keysOnce d.1 hw hwnull,
        ih (hfields d mem).2 hv hw]
  | @item s before after v w inner ih =>
      have hmem (x : Value) : x ∈ before ++ x :: after := List.mem_append_right _ List.mem_cons_self
      have hsame := ih hs ((Value.every_list.mp hv).2 v (hmem v)) ((Value.every_list.mp hw).2 w (hmem w))
      simp only [Shape.check, Value.items?]
      rw [Check.items_congr]
      rw [List.map_append, List.map_append, List.map_cons, List.map_cons, hsame]
  | @entry s before after k v w inner ih =>
      have hsame := ih hs (keysOnce_middle hv) (keysOnce_middle hw)
      simp only [Shape.check]
      rw [Check.entries_congr]
      rw [List.map_append, List.map_append, List.map_cons, List.map_cons, hsame]

end Immaterial

/-- Data that differ by immaterial changes and their reversals, any number of them, and have each key once all the
way. -/
def Variant (s : Shape) : Value → Value → Prop :=
  Relation.EqvGen fun v w => v.keysOnce = true ∧ w.keysOnce = true ∧ Immaterial s v w

theorem Variant.check_eq {form : TextForm} {s : Shape} (hs : s.sound = true) {v w : Value} (h : Variant s v w) :
    Shape.check form s v = Shape.check form s w := by
  induction h with
  | rel v w h => exact h.2.2.check_eq hs h.1 h.2.1
  | refl v => rfl
  | symm v w _ ih => exact ih.symm
  | trans u v w _ _ ih ih' => exact ih.trans ih'

/-! ### Bodies -/

/-- Two bodies are decoded to one record, or both are refused for the same problems. -/
inductive DecodesAlike (bs bs' : List UInt8) : Except CallError Value → Except CallError Value → Prop
  | ok (v : Value) : DecodesAlike bs bs' (.ok v) (.ok v)
  | error (subject : Option String) (problems : List Problem) :
    DecodesAlike bs bs' (.error (.undecodable subject problems bs)) (.error (.undecodable subject problems bs'))

theorem DecodesAlike.of_check (bs bs' : List UInt8) (subject : Option String) (x : Check Value) :
    DecodesAlike bs bs' (x.mapError fun ps => .undecodable subject ps bs)
      (x.mapError fun ps => .undecodable subject ps bs') := by
  cases x with
  | ok v => exact .ok v
  | error ps => exact .error subject ps

namespace Reply

variable {kind : RecordKind} {r r' : Reply} {j j' : Json}

theorem decodeRecord_of_document (hkind : kind.isReport = true) (h : Check.document r.body = .ok j) :
    r.decodeRecord kind =
      (kind.shape.check .characters j.plain).mapError fun ps => .undecodable (some kind.name) ps r.body := by
  have hform : kind.formOf .characters = .characters := by rw [RecordKind.formOf, if_pos hkind]
  rw [decodeRecord, RecordKind.read, h, bind_ok, RecordKind.offered, if_pos hkind, RecordKind.check, hform]

theorem decodeList_of_document (hkind : kind.isReport = true) (h : Check.document r.body = .ok j) :
    r.decodeList kind =
      (Shape.check .characters (.list kind.shape) j.plain).mapError fun ps => .undecodable (some "List") ps r.body := by
  rw [decodeList, h, bind_ok, RecordKind.offered, if_pos hkind]

/-- **Immaterial changes to a body make no difference to the report that is made of it**, or to the list of reports:
the same result, or the same problems at the same places. -/
theorem decodes_alike (hkind : kind.isReport = true) (hj : Check.document r.body = .ok j)
    (hj' : Check.document r'.body = .ok j') :
    (Variant kind.shape j.plain j'.plain →
      DecodesAlike r.body r'.body (r.decodeRecord kind) (r'.decodeRecord kind)) ∧
    (Variant (.list kind.shape) j.plain j'.plain →
      DecodesAlike r.body r'.body (r.decodeList kind) (r'.decodeList kind)) := by
  constructor
  · intro h
    rw [decodeRecord_of_document hkind hj, decodeRecord_of_document hkind hj', h.check_eq kind.sound_shape]
    exact .of_check ..
  · intro h
    rw [decodeList_of_document hkind hj, decodeList_of_document hkind hj',
      h.check_eq (show (Shape.list kind.shape).sound = true from kind.sound_shape)]
    exact .of_check ..

/-- A network as one daemon tells of it, with null in two places. -/
def sparseNetwork : Json :=
  .object [("Name", .text "n"), ("Id", .text "1"), ("IPAM", .object [("Config", .null), ("Driver", .text "d")]),
    ("Labels", .null)]

/-- The same network with a member that no report has, in another order, and without null. -/
def fullNetwork : Json :=
  .object [("Id", .text "1"), ("Peers", .array []), ("Name", .text "n"),
    ("IPAM", .object [("Config", .array []), ("Driver", .text "d")])]

theorem decodes_alike_sparseNetwork :
    Variant RecordKind.networkReport.shape sparseNetwork.plain fullNetwork.plain ∧
      DecodesAlike (Utf8.encode sparseNetwork.render) (Utf8.encode fullNetwork.render)
        (decodeRecord .networkReport ⟨200, Utf8.encode sparseNetwork.render, []⟩)
        (decodeRecord .networkReport ⟨200, Utf8.encode fullNetwork.render, []⟩) := by
  let name : Value × Value := (.text "Name", .text "n")
  let id : Value × Value := (.text "Id", .text "1")
  let addresses (config : Value) : Value := .map [(.text "Config", config), (.text "Driver", .text "d")]
  have hunset : Immaterial RecordKind.networkReport.shape
      (.map [name, id, (.text "IPAM", addresses .null), (.text "Labels", .null)])
      (.map [name, id, (.text "IPAM", addresses .null)]) :=
    .unset rfl [name, id, (.text "IPAM", addresses .null)] [] "Labels"
  have hreordered : Immaterial RecordKind.networkReport.shape (.map [name, id, (.text "IPAM", addresses .null)])
      (.map [id, name, (.text "IPAM", addresses .null)]) := .reordered (.swap _ _ _)
  have hunknown : Immaterial RecordKind.networkReport.shape
      (.map [id, (.text "Peers", .list []), name, (.text "IPAM", addresses .null)])
      (.map [id, name, (.text "IPAM", addresses .null)]) :=
    .unknown [id] [name, (.text "IPAM", addresses .null)] (by decide) (.list [])
  have hemptied : Immaterial RecordKind.networkReport.shape
      (.map [id, (.text "Peers", .list []), name, (.text "IPAM", addresses .null)])
      (.map [id, (.text "Peers", .list []), name, (.text "IPAM", addresses (.list []))]) :=
    .member (d := (⟨"ipam", "IPAM", some ⟨Shape.noAddressSettings, true⟩, false⟩, Shape.addressSettings))
      (by simp [Shape.networkFields]) (.inl rfl) [id, (.text "Peers", .list []), name] []
      (.emptied (d := (⟨"config", "Config", some ⟨.list [], true⟩, true⟩, .list Shape.subnetSettings))
        (by simp) rfl (.inl rfl) [] [(.text "Driver", .text "d")])
  have hvariant : Variant RecordKind.networkReport.shape sparseNetwork.plain fullNetwork.plain :=
    .trans _ _ _ (.rel _ _ ⟨rfl, rfl, hunset⟩) (.trans _ _ _ (.rel _ _ ⟨rfl, rfl, hreordered⟩)
      (.trans _ _ _ (.symm _ _ (.rel _ _ ⟨rfl, rfl, hunknown⟩)) (.rel _ _ ⟨rfl, rfl, hemptied⟩)))
  have hreport : RecordKind.networkReport.isReport = true := rfl
  have hsparse : Check.document (Reply.mk 200 (Utf8.encode sparseNetwork.render) []).body = .ok sparseNetwork :=
    Check.document_render (by decide)
  have hfull : Check.document (Reply.mk 200 (Utf8.encode fullNetwork.render) []).body = .ok fullNetwork :=
    Check.document_render (by decide)
  exact ⟨hvariant, (decodes_alike hreport hsparse hfull).1 hvariant⟩

end Reply

end DaemonClient
