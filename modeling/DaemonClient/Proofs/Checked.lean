import DaemonClient.Proofs.Typed
import DaemonClient.Record.Check

/-! What a check gives is well-typed (`holds_of_check`), as long as no ready-made record is handed in: such a record is
taken as it stands. Each collecting check is stated by what its parts give, so a check of a whole succeeds exactly when
the checks of its parts do. What a check can make of a value at all is told once (`Made`), with a test that the records
in it pass. -/

namespace DaemonClient
open Outcome

/-! ### Parts -/

namespace Check

/-- The octets of a written document are read as that document. -/
theorem document_render {j : Json} (h : j.fits Json.bodyDepth = true) : document (Utf8.encode j.render) = .ok j := by
  rw [document, Utf8.decode_encode]
  simp only [Json.parseBody_render h]

theorem under_eq_ok {α : Type} {l : Location} {x : Check α} {a : α} : under l x = .ok a ↔ x = .ok a := by
  cases x <;> simp [under]

theorem both_eq_ok {α β γ : Type} {f : α → β → γ} {x : Check α} {y : Check β} {c : γ} :
    both f x y = .ok c ↔ ∃ a b, x = .ok a ∧ y = .ok b ∧ f a b = c := by
  cases x <;> cases y <;> simp [both]

theorem items_eq_ok {check : Value → Check Value} {i : Nat} {xs ys : List Value} :
    items check i xs = .ok ys ↔ List.Forall₂ (fun x y => check x = .ok y) xs ys := by
  induction xs generalizing i ys with
  | nil => simp [items, eq_comm]
  | cons x xs ih =>
      simp only [items, both_eq_ok, under_eq_ok, ih, List.forall₂_cons_left_iff]
      constructor
      · rintro ⟨y, ys', hy, hys, rfl⟩
        exact ⟨y, ys', hy, hys, rfl⟩
      · rintro ⟨y, ys', hy, hys, rfl⟩
        exact ⟨y, ys', hy, hys, rfl⟩

theorem entries_eq_ok {form : TextForm} {check : Value → Check Value} {es out : Entries} :
    entries form check es = .ok out ↔
      List.Forall₂ (fun e o => text form e.1 = .ok o.1 ∧ check e.2 = .ok o.2) es out := by
  induction es generalizing out with
  | nil => simp [entries, eq_comm]
  | cons e es ih =>
      simp only [entries, key, both_eq_ok, under_eq_ok, ih, List.forall₂_cons_left_iff]
      constructor
      · rintro ⟨o, out', ⟨k, v, hk, hv, rfl⟩, hout, rfl⟩
        exact ⟨_, out', ⟨hk, hv⟩, hout, rfl⟩
      · rintro ⟨o, out', ⟨hk, hv⟩, hout, rfl⟩
        exact ⟨o, out', ⟨o.1, o.2, hk, hv, rfl⟩, hout, rfl⟩

end Check

namespace Shape

theorem check_optional {form : TextForm} {s : Shape} {v : Value} (h : v ≠ .null) :
    check form (.optional s) v = check form s v := by
  cases v <;> first | rfl | exact absurd rfl h

/-- The check of one field against what is given. -/
def checkField (form : TextForm) (es : Entries) (d : Slot × Shape) : Check Value :=
  match d.1.find? es with
  | some (name, v) => Check.under (.name name) (check form d.2 (d.1.normalise v))
  | none => match d.1.fallback with
    | some ⟨v, true⟩ => .ok v
    | some ⟨v, false⟩ => Check.under (.name d.1.wire) (check form d.2 v)
    | none => .error [⟨.missing, [.name d.1.wire]⟩]

theorem checkField_of_find? {form : TextForm} {es : Entries} {d : Slot × Shape} {name : String} {v : Value}
    (h : d.1.find? es = some (name, v)) :
    checkField form es d = Check.under (.name name) (check form d.2 (d.1.normalise v)) := by
  rw [checkField, h]

theorem checkFields_cons (form : TextForm) (d : Slot × Shape) (rest : List (Slot × Shape)) (es : Entries) :
    checkFields form (d :: rest) es =
      Check.both (fun v fs => (d.1.attr, v) :: fs) (checkField form es d) (checkFields form rest es) := by
  rw [checkFields]
  rfl

theorem checkFields_eq_ok {form : TextForm} {fields : List (Slot × Shape)} {es : Entries} {fs : Named} :
    checkFields form fields es = .ok fs ↔
      List.Forall₂ (fun d f => f.1 = d.1.attr ∧ checkField form es d = .ok f.2) fields fs := by
  induction fields generalizing fs with
  | nil => simp [checkFields, eq_comm]
  | cons d rest ih =>
      simp only [checkFields_cons, Check.both_eq_ok, ih, List.forall₂_cons_left_iff]
      constructor
      · rintro ⟨v, fs', hv, hfs, rfl⟩
        exact ⟨_, fs', ⟨rfl, hv⟩, hfs, rfl⟩
      · rintro ⟨⟨a, v⟩, fs', ⟨rfl, hv⟩, hfs, rfl⟩
        exact ⟨v, fs', hv, hfs, rfl⟩

end Shape

/-! ### Scalars -/

namespace Check

theorem flagOfText_eq_ok {s : String} {r : Value} (h : flagOfText s = .ok r) : ∃ b, r = .bool b := by
  rw [flagOfText] at h
  split at h
  · exact ⟨_, (Except.ok.inj h).symm⟩
  · cases h

theorem flagOfInt_eq_ok {n : Int} {r : Value} (h : flagOfInt n = .ok r) : ∃ b, r = .bool b := by
  rw [flagOfInt] at h
  split at h
  · exact ⟨_, (Except.ok.inj h).symm⟩
  split at h
  · exact ⟨_, (Except.ok.inj h).symm⟩
  · cases h

/-- A checked truth value is one. -/
theorem flag_eq_ok {v r : Value} (h : flag v = .ok r) : ∃ b, r = .bool b := by
  unfold flag at h
  split at h
  · exact ⟨_, (Except.ok.inj h).symm⟩
  · exact flagOfText_eq_ok h
  · split at h
    · exact flagOfText_eq_ok h
    · cases h
  · split at h
    · exact flagOfInt_eq_ok h
    · cases h
  · split at h
    · exact flagOfInt_eq_ok h
    · cases h
  · cases h

theorem countOfText_eq_ok {s : String} {r : Value} (h : countOfText s = .ok r) : ∃ n, r = .int n := by
  rw [countOfText] at h
  split at h
  · exact ⟨_, (Except.ok.inj h).symm⟩
  · cases h

/-- A checked integer is one. -/
theorem count_eq_ok {v r : Value} (h : count v = .ok r) : ∃ n, r = .int n := by
  unfold count at h
  split at h
  · exact ⟨_, (Except.ok.inj h).symm⟩
  · exact ⟨_, (Except.ok.inj h).symm⟩
  · exact countOfText_eq_ok h
  · split at h
    · exact countOfText_eq_ok h
    · cases h
  · rename_i x
    cases hx : wholeFloat x with
    | ok n =>
        rw [hx] at h
        exact ⟨n, (Except.ok.inj h).symm⟩
    | error ps =>
        rw [hx] at h
        cases h
  · cases h

theorem textOf_eq_ok {bs : List UInt8} {r : Value} : textOf bs = .ok r ↔ ∃ s, r = .text s ∧ Utf8.decode bs = .ok s := by
  rw [textOf]
  split
  · rename_i s hs
    simp [hs, eq_comm]
  · rename_i e he
    simp [he, fail]

/-- Checked text is in the form. -/
theorem text_eq_ok {form : TextForm} {v r : Value} (h : text form v = .ok r) : form.holds r = true := by
  unfold text at h
  split at h
  case h_3 =>
    obtain ⟨s, rfl, -⟩ := textOf_eq_ok.mp h
    rfl
  case h_11 =>
    split at h <;>
    · obtain rfl := Except.ok.inj h
      rfl
  all_goals cases h <;> rfl

/-- Text in the form is checked as it is. -/
theorem text_of_holds {form : TextForm} {v : Value} (hv : form.holds v = true) : text form v = .ok v := by
  rcases TextForm.text_or_octets hv with ⟨s, rfl⟩ | ⟨bs, rfl⟩ <;> cases form <;> first | rfl | cases hv

end Check

/-! ### Maps with each key once -/

namespace Entries

theorem forall_insert {P : Value × Value → Prop} {es : Entries} {k v : Value} (hes : ∀ e ∈ es, P e)
    (hnew : P (k, v)) (hput : ∀ e ∈ es, P (e.1, v)) : ∀ e ∈ insert es k v, P e := by
  induction es with
  | nil => simpa [insert] using hnew
  | cons e es ih =>
      obtain ⟨he, hes⟩ := List.forall_mem_cons.mp hes
      obtain ⟨hpute, hputes⟩ := List.forall_mem_cons.mp hput
      rw [insert]
      split
      · exact List.forall_mem_cons.mpr ⟨hpute, hes⟩
      · exact List.forall_mem_cons.mpr ⟨he, ih hes hputes⟩

/-- What holds of all keys and of all values holds of those of the merged map. -/
theorem forall_ofList {P Q : Value → Prop} {es : Entries} (h : ∀ e ∈ es, P e.1 ∧ Q e.2) :
    ∀ e ∈ ofList es, P e.1 ∧ Q e.2 := by
  have hfold (done : Entries) (hdone : ∀ e ∈ done, P e.1 ∧ Q e.2) :
      ∀ e ∈ es.foldl (fun es e => insert es e.1 e.2) done, P e.1 ∧ Q e.2 := by
    induction es generalizing done with
    | nil => exact hdone
    | cons e es ih =>
        obtain ⟨he, hes⟩ := List.forall_mem_cons.mp h
        exact ih hes _ (forall_insert hdone he fun d hd => ⟨(hdone d hd).1, he.2⟩)
  exact hfold [] (by simp)

theorem distinct_insert {es : Entries} {k v : Value} (h : es.Distinct) : (insert es k v).Distinct := by
  induction es with
  | nil => exact List.pairwise_singleton _ _
  | cons e es ih =>
      obtain ⟨he, hes⟩ := List.pairwise_cons.mp h
      rw [insert]
      split
      · exact List.pairwise_cons.mpr ⟨he, hes⟩
      · rename_i hnew
        refine List.pairwise_cons.mpr ⟨?_, ih hes⟩
        exact forall_insert (P := fun e' => e'.1.same e.1 = false) he (Bool.eq_false_iff.mpr hnew) he

/-- A merged map has each key once. -/
theorem distinct_ofList (es : Entries) : (ofList es).Distinct := by
  have hfold (done : Entries) (hdone : done.Distinct) :
      Distinct (es.foldl (fun es e => insert es e.1 e.2) done) := by
    induction es generalizing done with
    | nil => exact hdone
    | cons e es ih => exact ih _ (distinct_insert hdone)
  exact hfold [] List.Pairwise.nil

/-- Entries with the same keys in the same order, and related values. -/
def Alongside (R : Value → Value → Prop) (es new : Entries) : Prop :=
  List.Forall₂ (fun e n => n.1 = e.1 ∧ R e.2 n.2) es new

namespace Alongside

variable {R : Value → Value → Prop} {es new : Entries}

theorem keys (h : Alongside R es new) : new.map (·.1) = es.map (·.1) :=
  eq_map_of_forall₂ (List.forall₂_map_right_iff.mpr (h.imp fun _ _ hn => hn.1))

theorem distinct (h : Alongside R es new) (hes : es.Distinct) : new.Distinct :=
  distinct_of_keys h.keys.symm hes

/-- Under a name there are related values, or none on either side. -/
theorem getText? (h : Alongside R es new) (name : String) :
    Option.Rel R (es.getText? name) (new.getText? name) := by
  have hreverse := List.forall₂_reverse_iff.mpr h
  rw [Entries.getText?, Entries.getText?, get?, get?]
  generalize es.reverse = es at hreverse
  generalize new.reverse = new at hreverse
  induction hreverse with
  | nil => exact .none
  | @cons e n es new hn _ ih =>
      rw [List.find?_cons, List.find?_cons, hn.1]
      split
      · exact .some hn.2
      · exact ih

end Alongside

theorem get?_cons (e : Value × Value) (es : Entries) (k : Value) :
    get? (e :: es) k = if k.same e.1 then some e.2 else es.get? k := by
  rw [get?, get?, List.find?_cons]
  cases k.same e.1 <;> rfl

theorem mem_of_getText? {es : Entries} {name : String} {v : Value} (h : es.getText? name = some v) :
    ∃ e ∈ es, e.2 = v := by
  rw [getText?, get?, Option.map_eq_some_iff] at h
  obtain ⟨e, he, hv⟩ := h
  exact ⟨e, List.mem_reverse.mp (List.mem_of_find?_eq_some he), hv⟩

end Entries

/-- What a field is given is a value of what is given. -/
theorem Slot.mem_of_find? {slot : Slot} {es : Entries} {name : String} {v : Value}
    (h : slot.find? es = some (name, v)) : ∃ e ∈ es, e.2 = v := by
  unfold find? at h
  split at h
  · rename_i w hw
    cases h
    exact Entries.mem_of_getText? hw
  · obtain ⟨w, hw, hpair⟩ := Option.map_eq_some_iff.mp h
    cases hpair
    exact Entries.mem_of_getText? hw

/-- A field is given related values under the same name, or nothing on either side. -/
theorem Slot.find?_alongside {R : Value → Value → Prop} {es new : Entries} (slot : Slot)
    (h : Entries.Alongside R es new) :
    Option.Rel (fun g g' => g'.1 = g.1 ∧ R g.2 g'.2) (slot.find? es) (slot.find? new) := by
  have hwire := h.getText? slot.wire
  have hattr := h.getText? slot.attr
  rw [find?, find?]
  generalize es.getText? slot.wire = wire, new.getText? slot.wire = wire' at hwire ⊢
  generalize es.getText? slot.attr = attr, new.getText? slot.attr = attr' at hattr ⊢
  cases hwire with
  | some hval => exact .some ⟨rfl, hval⟩
  | none =>
      cases hattr with
      | some hval => exact .some ⟨rfl, hval⟩
      | none => exact .none

/-! ### Checked values are well-typed -/

namespace Value

/-- All records in a value pass a test of their kind and their fields. -/
def everyRecord (test : RecordKind → Named → Bool) : Value → Bool := every fun
  | record kind _ fs _ => test kind fs
  | _ => true

/-- A value that holds no records. -/
def noRecords : Value → Bool := every fun
  | record .. => false
  | _ => true

theorem noRecords_eq : noRecords = everyRecord fun _ _ => false := rfl

theorem everyRecord_record {test : RecordKind → Named → Bool} {kind : RecordKind} {form : TextForm} {fs ns : Named} :
    everyRecord test (record kind form fs ns) = true ↔ test kind fs = true ∧ ∀ f ∈ fs, f.2.everyRecord test = true :=
  every_record

theorem everyRecord_of_noRecords {test : RecordKind → Named → Bool} {v : Value} (h : v.noRecords = true) :
    v.everyRecord test = true :=
  every_mono (fun v hv => by cases v <;> first | rfl | cases hv) h

/-- A value whose maps have each key once. -/
def keysOnce : Value → Bool := every fun
  | map es => decide (Entries.Distinct es)
  | _ => true

theorem merged_of_keysOnce {v : Value} (h : v.keysOnce = true) : v.merged = v := by
  induction v with
  | list xs ih =>
      have hxs := (every_list.mp h).2
      rw [merged, mergedItems_eq_map]
      exact congrArg list (map_eq_self fun x hx => ih x hx (hxs x hx))
  | tuple xs ih =>
      have hxs := (every_tuple.mp h).2
      rw [merged, mergedItems_eq_map]
      exact congrArg tuple (map_eq_self fun x hx => ih x hx (hxs x hx))
  | map es ih =>
      obtain ⟨hself, hes⟩ := every_map.mp h
      have hentries : mergedEntries es = es := by
        rw [mergedEntries_eq_map]
        exact map_eq_self fun e he => Prod.ext rfl ((ih e he).2 (hes e he).2)
      rw [merged, hentries, Entries.ofList_of_distinct (of_decide_eq_true hself)]
  | _ => rfl

/-- A given value that is not null and has each key once is looked at as it is. -/
theorem normalise_of_keysOnce (slot : Slot) {v : Value} (hv : v.keysOnce = true) (hne : v ≠ null) :
    slot.normalise v = v := by
  unfold Slot.normalise
  split
  · split
    · exact absurd rfl hne
    · exact merged_of_keysOnce hv
  · rfl

section
variable {test : RecordKind → Named → Bool}

theorem everyRecord_merged {v : Value} (h : v.everyRecord test = true) : v.merged.everyRecord test = true := by
  induction v with
  | list xs ih =>
      have hxs := (every_list.mp h).2
      rw [merged, mergedItems_eq_map]
      exact every_list.mpr ⟨rfl, List.forall_mem_map.mpr fun x hx => ih x hx (hxs x hx)⟩
  | tuple xs ih =>
      have hxs := (every_tuple.mp h).2
      rw [merged, mergedItems_eq_map]
      exact every_tuple.mpr ⟨rfl, List.forall_mem_map.mpr fun x hx => ih x hx (hxs x hx)⟩
  | map es ih =>
      have hes := (every_map.mp h).2
      rw [merged, mergedEntries_eq_map]
      refine every_map.mpr ⟨rfl, Entries.forall_ofList (P := fun k => k.everyRecord test = true)
        (Q := fun x => x.everyRecord test = true) (List.forall_mem_map.mpr fun e he => ?_)⟩
      exact ⟨(hes e he).1, (ih e he).2 (hes e he).2⟩
  | record => exact h
  | _ => rfl

theorem everyRecord_items {v : Value} {xs : List Value} (h : v.everyRecord test = true) (hitems : v.items? = some xs) :
    ∀ x ∈ xs, x.everyRecord test = true := by
  cases v with
  | list ys =>
      obtain rfl := Option.some.inj hitems
      exact (every_list.mp h).2
  | tuple ys =>
      obtain rfl := Option.some.inj hitems
      exact (every_tuple.mp h).2
  | octets holder bs =>
      cases holder with
      | view =>
          obtain rfl := Option.some.inj hitems
          exact List.forall_mem_map.mpr fun _ _ => rfl
      | _ => cases hitems
  | record kind form fs ns =>
      obtain rfl := Option.some.inj hitems
      refine List.forall_mem_map.mpr fun f hf => every_tuple.mpr ⟨rfl, ?_⟩
      exact List.forall_mem_cons.mpr ⟨rfl, List.forall_mem_singleton.mpr ((everyRecord_record.mp h).2 f hf)⟩
  | _ => cases hitems

theorem everyRecord_of_offer {kind : RecordKind} {v : Value} {es : Entries} (hv : v.everyRecord test = true)
    (h : kind.offer? v = some es) : ∀ e ∈ es, e.2.everyRecord test = true := by
  cases v with
  | map given =>
      have hgiven := (every_map.mp hv).2
      simp only [RecordKind.offer?, Option.some.injEq] at h
      subst h
      split
      · intro e he
        exact (hgiven e (List.mem_of_mem_filter he)).2
      · intro e he
        exact (hgiven e he).2
  | record kind' form fs ns =>
      rw [RecordKind.offer?] at h
      split at h
      · obtain rfl := Option.some.inj h
        exact List.forall_mem_map.mpr (everyRecord_record.mp hv).2
      · cases h
  | _ => cases h

end

end Value

/-! ### Documents as data -/

namespace Json

theorem toValues_eq_map (js : List Json) : toValues js = js.map toValue := by
  induction js with
  | nil => rfl
  | cons j js ih => rw [toValues, ih, List.map_cons]

theorem toEntries_eq_map (ms : List (String × Json)) :
    toEntries ms = ms.map fun m => (.text m.1, m.2.toValue) := by
  induction ms with
  | nil => rfl
  | cons m ms ih => rw [toEntries, ih, List.map_cons]

theorem plain_array (js : List Json) : plain (array js) = .list (js.map plain) := by
  rw [plain, toValue, Value.merged, Value.mergedItems_eq_map, toValues_eq_map, List.map_map]
  rfl

theorem plain_object (ms : List (String × Json)) :
    plain (object ms) = .map (Entries.ofList (ms.map fun m => (.text m.1, m.2.plain))) := by
  rw [plain, toValue, Value.merged, Value.mergedEntries_eq_map, toEntries_eq_map, List.map_map]
  rfl

/-- A document as data has each key once. -/
theorem keysOnce_plain (j : Json) : j.plain.keysOnce = true := by
  induction j with
  | array js ih =>
      rw [plain_array]
      exact Value.every_list.mpr ⟨rfl, List.forall_mem_map.mpr ih⟩
  | object ms ih =>
      rw [plain_object]
      refine Value.every_map.mpr ⟨decide_eq_true (Entries.distinct_ofList _), ?_⟩
      exact Entries.forall_ofList (P := fun k => k.keysOnce = true) (Q := fun x => x.keysOnce = true)
        (List.forall_mem_map.mpr fun m hm => ⟨rfl, ih m hm⟩)
  | _ => rfl

end Json

namespace Shape

/-- What stands in a field that is not given is a value of the field's shape, or raw data without records. -/
def defaultHolds (form : TextForm) (d : Slot × Shape) : Bool :=
  match d.1.fallback with
  | some ⟨v, true⟩ => holds form d.2 v
  | some ⟨v, false⟩ => v.noRecords
  | none => true

/-- All defaults of a shape hold, with text in a form. -/
def defaultsHold (form : TextForm) : Shape → Bool := every fun _ fields => fields.all (defaultHolds form)

section
variable {test : RecordKind → Named → Bool} {form : TextForm}

/-- A field takes what a check makes of what is given or of its raw default, or its ready default. -/
theorem of_checkField {P : Value → Prop} {es : Entries} (hes : ∀ e ∈ es, e.2.everyRecord test = true)
    {d : Slot × Shape} (hready : ∀ v, d.1.fallback = some ⟨v, true⟩ → P v)
    (hraw : ∀ v, d.1.fallback = some ⟨v, false⟩ → v.everyRecord test = true) {x : Value}
    (h : checkField form es d = .ok x) (ih : ∀ v r, v.everyRecord test = true → check form d.2 v = .ok r → P r) :
    P x := by
  rw [checkField] at h
  split at h
  · rename_i name v hfind
    refine ih _ x ?_ (Check.under_eq_ok.mp h)
    obtain ⟨e, he, rfl⟩ := Slot.mem_of_find? hfind
    have hv := hes e he
    unfold Slot.normalise
    split
    · split
      · rfl
      · exact Value.everyRecord_merged hv
    · exact hv
  · split at h
    · rename_i v hfallback
      obtain rfl := Except.ok.inj h
      exact hready _ hfallback
    · rename_i v hfallback
      exact ih v x (hraw v hfallback) (Check.under_eq_ok.mp h)
    · cases h

theorem attrs_of_checked {fields : List (Slot × Shape)} {fs : Named}
    (h : List.Forall₂ (fun d f => f.1 = d.1.attr) fields fs) : fs.map (·.1) = fields.map (·.1.attr) := by
  induction h with
  | nil => rfl
  | cons hf _ ih => rw [List.map_cons, List.map_cons, ih, hf]

/-- What a check makes of a value whose records pass a test: scalars and text in the form, lists and maps of what is
made, records whose fields hold what is made or a ready default, and records of the value itself. -/
inductive Made (test : RecordKind → Named → Bool) (form : TextForm) : Shape → Value → Prop
  | flag (b : Bool) : Made test form .flag (.bool b)
  | count (n : Int) : Made test form .count (.int n)
  | text {o : Value} (holds : form.holds o = true) : Made test form .text o
  | absent (s : Shape) : Made test form (.optional s) .null
  | present {s : Shape} {r : Value} (made : Made test form s r) : Made test form (.optional s) r
  | list {s : Shape} {ys : List Value} (made : ∀ y ∈ ys, Made test form s y) : Made test form (.list s) (.list ys)
  | map {s : Shape} {out : Entries} (keys : ∀ o ∈ out, form.holds o.1 = true)
      (made : ∀ o ∈ out, Made test form s o.2) : Made test form (.map s) (.map (Entries.ofList out))
  | record {kind : RecordKind} {fields : List (Slot × Shape)} {fs : Named}
      (attrs : fs.map (·.1) = fields.map (·.1.attr))
      (made : ∀ d ∈ fields, ∀ x, (d.1.attr, x) ∈ fs → d.1.fallback ≠ some ⟨x, true⟩ → Made test form d.2 x) :
    Made test form (.record kind fields) (.record kind form fs [])
  | kept {kind : RecordKind} (fields : List (Slot × Shape)) {form' : TextForm} {fs ns : Named}
      (passes : (Value.record kind form' fs ns).everyRecord test = true) :
    Made test form (.record kind fields) (.record kind form' fs ns)

theorem made_of_check {s : Shape} (hs : s.sound = true) (hdefaults : s.defaultsHold form = true) {v r : Value}
    (hv : v.everyRecord test = true) (h : check form s v = .ok r) : Made test form s r := by
  induction s generalizing v r with
  | flag =>
      obtain ⟨b, rfl⟩ := Check.flag_eq_ok h
      exact .flag b
  | count =>
      obtain ⟨n, rfl⟩ := Check.count_eq_ok h
      exact .count n
  | text => exact .text (Check.text_eq_ok h)
  | optional s ih =>
      unfold check at h
      split at h
      · obtain rfl := Except.ok.inj h
        exact .absent s
      · exact .present (ih hs hdefaults hv h)
  | list s ih =>
      rw [check] at h
      split at h
      · rename_i xs hitems
        obtain ⟨ys, hys, rfl⟩ := map_eq_ok.mp h
        refine .list fun y hy => ?_
        obtain ⟨x, hx, hxy⟩ := exists_mem_of_forall₂ (Check.items_eq_ok.mp hys) hy
        exact ih hs hdefaults (Value.everyRecord_items hv hitems x hx) hxy
      · cases h
  | map s ih =>
      unfold check at h
      split at h
      · rename_i es
        have hes := (Value.every_map.mp hv).2
        obtain ⟨out, hout, rfl⟩ := map_eq_ok.mp h
        have hentries := Check.entries_eq_ok.mp hout
        refine .map (fun o ho => ?_) fun o ho => ?_
        · obtain ⟨e, -, hkey, -⟩ := exists_mem_of_forall₂ hentries ho
          exact Check.text_eq_ok hkey
        · obtain ⟨e, he, -, hval⟩ := exists_mem_of_forall₂ hentries ho
          exact ih hs hdefaults (hes e he).2 hval
      · cases h
  | record kind fields ih =>
      obtain ⟨hnames, -, hslots⟩ := sound_record.mp hs
      obtain ⟨hdefault, hdefaults⟩ := every_record.mp hdefaults
      rw [List.all_eq_true] at hdefault
      rw [check] at h
      split at h
      · rename_i haccepts
        obtain rfl := Except.ok.inj h
        cases v with
        | record kind' form' fs ns =>
            rw [RecordKind.accepts, Bool.and_eq_true, decide_eq_true_eq] at haccepts
            obtain ⟨rfl, -⟩ := haccepts
            exact .kept fields hv
        | _ => cases haccepts
      split at h
      · rename_i es hoffer
        have hes := Value.everyRecord_of_offer hv hoffer
        obtain ⟨fs, hfs, rfl⟩ := map_eq_ok.mp h
        have hall := checkFields_eq_ok.mp hfs
        have hattrs : fs.map (·.1) = fields.map (·.1.attr) :=
          attrs_of_checked (hall.imp fun _ _ hf => hf.1)
        refine .record hattrs fun d hd x hx => ?_
        obtain ⟨f, hf, hattr, hfield⟩ := exists_mem_of_forall₂ hall.flip hd
        have hnodup : (fs.map (·.1)).Nodup := hattrs ▸ hnames.1
        have hlookup := Named.lookup_of_mem hnodup hf
        rw [hattr, Named.lookup_of_mem hnodup hx] at hlookup
        obtain rfl := Option.some.inj hlookup
        -- the default apart, the field holds what its check makes of the given data or of the raw default
        refine of_checkField (P := fun y => d.1.fallback ≠ some ⟨y, true⟩ → Made test form d.2 y) hes
          (fun v hv hnot => absurd hv hnot) (fun v hv => ?_) hfield
          fun v r hv hr _ => ih d hd (hslots d hd).2 (hdefaults d hd) hv hr
        have hraw := hdefault d hd
        rw [defaultHolds, hv] at hraw
        exact Value.everyRecord_of_noRecords hraw
      · cases h

end

/-- What a check makes of data without records is well-typed. -/
theorem Made.holds {form : TextForm} {s : Shape} (hs : s.sound = true) (hdefaults : s.defaultsHold form = true)
    {r : Value} (h : Made (fun _ _ => false) form s r) : s.holds form r = true := by
  induction h with
  | flag b => rfl
  | count n => rfl
  | text ho => rwa [Shape.holds]
  | absent s => rfl
  | @present s r _ ih =>
      refine holds_optional.mpr ?_
      by_cases hnull : r = .null
      · exact .inl hnull
      · exact .inr ⟨hnull, ih hs hdefaults⟩
  | list _ ih => exact holds_list.mpr ⟨_, rfl, fun y hy => ih y hy hs hdefaults⟩
  | @map s out hkeys _ ih =>
      exact holds_map.mpr ⟨_, rfl, Entries.distinct_ofList out, Entries.forall_ofList
        (P := fun k => form.holds k = true) (Q := fun x => s.holds form x = true)
        fun o ho => ⟨hkeys o ho, ih o ho hs hdefaults⟩⟩
  | @record kind fields fs hattrs _ ih =>
      obtain ⟨hnames, -, hslots⟩ := sound_record.mp hs
      obtain ⟨hdefault, hdefaults⟩ := every_record.mp hdefaults
      rw [List.all_eq_true] at hdefault
      have hlen : fs.length = fields.length := by simpa using congrArg List.length hattrs
      refine holds_record.mpr ⟨form, fs, [], rfl, hlen, fun d hd => ?_⟩
      obtain ⟨f, hf, hattr⟩ := List.mem_map.mp (hattrs ▸ List.mem_map_of_mem hd : d.1.attr ∈ fs.map (·.1))
      refine ⟨f.2, hattr ▸ Named.lookup_of_mem (hattrs ▸ hnames.1) hf, ?_⟩
      by_cases hready : d.1.fallback = some ⟨f.2, true⟩
      · have hdefault := hdefault d hd
        rwa [defaultHolds, hready] at hdefault
      · exact ih d hd f.2 (hattr ▸ hf) hready (hslots d hd).2 (hdefaults d hd)
  | kept fields hpasses => exact absurd (Value.everyRecord_record.mp hpasses).1 Bool.false_ne_true

/-- **What a check gives is well-typed.** -/
theorem holds_of_check {form : TextForm} {s : Shape} (hs : s.sound = true) (hdefaults : s.defaultsHold form = true)
    {v r : Value} (hv : v.noRecords = true) (h : check form s v = .ok r) : s.holds form r = true :=
  (made_of_check hs hdefaults (Value.noRecords_eq ▸ hv) h).holds hs hdefaults

end Shape

namespace RecordKind

theorem defaultsHold_shape (kind : RecordKind) (form : TextForm) :
    kind.shape.defaultsHold (kind.formOf form) = true := by
  cases kind <;> cases form <;> decide

/-- A record that a check makes of data without records is well-typed. -/
theorem holds_of_check {kind : RecordKind} {form : TextForm} {v r : Value} (hv : v.noRecords = true)
    (h : kind.check form v = .ok r) : kind.shape.holds (kind.formOf form) r = true :=
  Shape.holds_of_check kind.sound_shape (kind.defaultsHold_shape form) hv h

end RecordKind
end DaemonClient
