import DaemonClient.Proofs.Encoded
import DaemonClient.Proofs.JsonPrefix
import DaemonClient.Proofs.Parity
import DaemonClient.Proofs.Variants

/-! Checks do not see whether data went through JSON text: each check that takes the data takes what its JSON form is
read as, with the same result (`check_shown`). The maps that become records must have text keys for that, since octets
are no names of fields until they are written. -/

namespace DaemonClient
open Outcome

/-! ### Documents as data -/

namespace Json

/-- A document as data, its members each once or as often as they are written. -/
def shown (once : Bool) (j : Json) : Value := if once then j.plain else j.toValue

theorem shown_array (once : Bool) (js : List Json) : shown once (array js) = .list (js.map (shown once)) := by
  cases once
  · exact congrArg Value.list (toValues_eq_map js)
  · exact plain_array js

theorem shown_object {once : Bool} {ms : List (String × Json)}
    (h : Entries.Distinct (ms.map fun m => (.text m.1, shown once m.2))) :
    shown once (object ms) = .map (ms.map fun m => (.text m.1, shown once m.2)) := by
  cases once
  · exact congrArg Value.map (toEntries_eq_map ms)
  · exact (plain_object ms).trans (congrArg Value.map (Entries.ofList_of_distinct h))

/-- A document as data, looked at once more, has each member once. -/
theorem merged_shown (once : Bool) (j : Json) : (shown once j).merged = shown true j := by
  cases once
  · rfl
  · exact Value.merged_of_keysOnce (keysOnce_plain j)

theorem shown_eq_null {once : Bool} {j : Json} (h : shown once j = .null) : j = null := by
  cases j with
  | array js => rw [shown_array] at h; cases h
  | object ms =>
      cases once
      · cases h
      · cases (plain_object ms).symm.trans h
  | null => rfl
  | _ => cases once <;> cases h

end Json

namespace Value

/-! ### Data -/

/-- Data made of null, truth values, integers, text, octets, lists, tuples and maps, each key once. -/
def isData : Value → Bool := every fun
  | float _ => false
  | record .. => false
  | foreign _ => false
  | octets holder _ => decide (holder ≠ .view)
  | map es => decide (Entries.Distinct es)
  | _ => true

theorem isData_map {es : Entries} :
    isData (map es) = true ↔ es.Distinct ∧ ∀ e ∈ es, e.1.isData = true ∧ e.2.isData = true := by
  rw [isData, every_map]
  exact and_congr_left fun _ => decide_eq_true_iff

theorem keysOnce_of_isData {v : Value} (h : v.isData = true) : v.keysOnce = true :=
  every_mono (fun v hv => by cases v <;> first | rfl | exact hv) h

def isText : Value → Bool
  | text _ => true
  | _ => false

theorem isText_iff {v : Value} : v.isText = true ↔ ∃ s, v = text s := by cases v <;> simp [isText]

theorem encode_octets_eq_ok {holder : OctetHolder} {bs : List UInt8} {j : Json} :
    encode (octets holder bs) = .ok j ↔ ∃ s, j = .text s ∧ bs = Utf8.encode s := by
  simp only [encode_eq_ok, textual_octets_eq_ok]
  constructor
  · rintro ⟨_, ⟨s, rfl, hs⟩, hj⟩
    exact ⟨s, (Except.ok.inj hj).symm, hs⟩
  · rintro ⟨s, rfl, hs⟩
    exact ⟨_, ⟨s, rfl, hs⟩, rfl⟩

theorem eq_null_of_encode {v : Value} (h : encode v = .ok .null) : v = null := by
  obtain ⟨t, ht, hjson⟩ := encode_eq_ok.mp h
  have hnull : t = null := by
    cases t with
    | null => rfl
    | bool => cases hjson
    | text => cases hjson
    | octets => cases hjson
    | record => cases hjson
    | foreign => cases hjson
    | _ =>
        rw [toJson, map_eq_ok] at hjson
        obtain ⟨_, -, hjson⟩ := hjson
        cases hjson
  exact textual_eq_null.mp (hnull ▸ ht)

theorem encode_int_eq_ok {n : Int} {j : Json} : encode (int n) = .ok j ↔ exceedsDigitLimit n = false ∧ j = .int n := by
  simp only [encode, textual, bind_ok, toJson, checkDigits]
  cases exceedsDigitLimit n <;> simp [eq_comm]

/-- A value without parts and octets. -/
def isBareScalar : Value → Bool
  | null | bool _ | int _ | text _ => true
  | _ => false

/-- Such a value is what its JSON form is read as, and that nests nothing. -/
theorem shown_of_bareScalar {v : Value} (hv : v.isBareScalar = true) {j : Json} (hj : v.encode = .ok j) :
    (∀ once, j.shown once = v) ∧ ∀ depth, Json.fits depth j = true := by
  cases v with
  | int n =>
      obtain ⟨hlimit, rfl⟩ := encode_int_eq_ok.mp hj
      exact ⟨fun once => by cases once <;> rfl, fun depth => by simp [Json.fits, hlimit]⟩
  | null => cases hj; exact ⟨fun once => by cases once <;> rfl, fun depth => by simp [Json.fits]⟩
  | bool b => cases hj; exact ⟨fun once => by cases once <;> rfl, fun depth => by simp [Json.fits]⟩
  | text s => cases hj; exact ⟨fun once => by cases once <;> rfl, fun depth => by simp [Json.fits]⟩
  | _ => cases hv

/-- A map with text keys is written as it is, member by member. -/
theorem shown_of_textKeys {es : Entries} (hes : es.Distinct) (htexts : ∀ e ∈ es, ∃ s, e.1 = text s) {j : Json}
    (hj : encode (map es) = .ok j) (once : Bool) :
    ∃ new, j.shown once = map new ∧
      Entries.Alongside (fun v w => ∃ i, v.encode = .ok i ∧ w = i.shown once) es new := by
  obtain ⟨ms, rfl, -, hms⟩ := encode_map_eq_ok.mp hj
  have halong : Entries.Alongside (fun v w => ∃ i, v.encode = .ok i ∧ w = i.shown once) es
      (ms.map fun m => (text m.1, m.2.shown once)) := by
    rw [Entries.Alongside, List.forall₂_map_right_iff]
    refine ((List.forall₂_and_left _ _).mpr ⟨htexts, hms⟩).imp ?_
    rintro ⟨_, v⟩ m ⟨⟨s, rfl⟩, hname, hval⟩
    exact ⟨congrArg text (Except.ok.inj hname).symm, m.2, hval, rfl⟩
  exact ⟨_, Json.shown_object (halong.distinct hes), halong⟩

/-- Data is its own wire form. -/
theorem wireIn_of_noRecords {v : Value} (hv : v.noRecords = true) (place : Option Shape) : wireIn place v = v := by
  induction v generalizing place with
  | list xs ih =>
      rw [wireIn_list]
      exact congrArg list (map_eq_self fun x hx => ih x hx ((every_list.mp hv).2 x hx) _)
  | tuple xs ih =>
      rw [wireIn_tuple]
      exact congrArg tuple (map_eq_self fun x hx => ih x hx ((every_tuple.mp hv).2 x hx) _)
  | map es ih =>
      rw [wireIn_map]
      exact congrArg map (map_eq_self fun e he => Prod.ext rfl ((ih e he).2 ((every_map.mp hv).2 e he).2 _))
  | record => cases hv
  | _ => rfl

end Value

/-! ### Text and scalars -/

namespace Check

/-- Checked text was text or octets, and it is the same if its octets are read first. -/
theorem text_decoded {form : TextForm} (hform : form ≠ .given) {v r : Value} {s : String} (h : text form v = .ok r)
    (hv : v.decodedKey = .text s) : text form (.text s) = .ok r := by
  cases v with
  | text u =>
      obtain rfl := Value.text.inj hv
      exact h
  | octets holder bs =>
      have hread : Value.readOctets holder bs = .text s := hv
      rw [Value.readOctets] at hread
      split at hread
      · rename_i u hdecode
        obtain rfl := Value.text.inj hread
        obtain rfl := Utf8.decode_eq_ok.mp hdecode
        cases form with
        | given => exact absurd rfl hform
        | characters =>
            cases holder with
            | view => cases h
            | _ => exact (textOf_encode u).symm.trans h
        | octets =>
            cases holder with
            | view => cases h
            | _ => exact h
      · cases hread
  | _ => cases form <;> cases h

end Check

/-! ### Checks of what is written -/

namespace Shape

mutual

/-- Data in which the maps that become records have text keys only, as far as fields look. -/
def textKeyed : Shape → Value → Bool
  | .optional s, v => textKeyed s v
  | .list s, v => (v.items?.getD []).all (textKeyed s)
  | .map s, .map es => es.all fun e => textKeyed s e.2
  | .record _ fields, .map es => es.all (fun e => e.1.isText) && fieldsTextKeyed fields es
  | _, _ => true

/-- What fields are given has text keys where it becomes records. -/
def fieldsTextKeyed : List (Slot × Shape) → Entries → Bool
  | [], _ => true
  | (slot, s) :: rest, es => (slot.find? es).all (fun g => textKeyed s g.2) && fieldsTextKeyed rest es

end

theorem fieldsTextKeyed_iff {fields : List (Slot × Shape)} {es : Entries} :
    fieldsTextKeyed fields es = true ↔
      ∀ d ∈ fields, ∀ name v, d.1.find? es = some (name, v) → d.2.textKeyed v = true := by
  induction fields with
  | nil => simp [fieldsTextKeyed]
  | cons d rest ih =>
      rw [fieldsTextKeyed, Bool.and_eq_true, ih, List.forall_mem_cons, Option.all_eq_true]
      simp only [Prod.forall]

theorem textKeyed_record {kind : RecordKind} {fields : List (Slot × Shape)} {es : Entries} :
    textKeyed (.record kind fields) (.map es) = true ↔ (∀ e ∈ es, ∃ s, e.1 = .text s) ∧
      ∀ d ∈ fields, ∀ name v, d.1.find? es = some (name, v) → d.2.textKeyed v = true := by
  rw [textKeyed, Bool.and_eq_true, List.all_eq_true, fieldsTextKeyed_iff]
  simp only [Value.isText_iff]

/-- With a shape, what is read from the JSON form of data is taken as the data is. -/
def TakesShown (form : TextForm) (s : Shape) : Prop :=
  ∀ (v r : Value) (j : Json), v.isData = true → s.textKeyed v = true → check form s v = .ok r → v.encode = .ok j →
    ∀ once, check form s (j.shown once) = .ok r

/-- What a field is given is looked at as its JSON form is. -/
theorem check_normalise_shown {form : TextForm} {d : Slot × Shape} (hd : TakesShown form d.2) {v r : Value}
    (hv : v.isData = true) (hkeys : d.2.textKeyed v = true) (hne : v ≠ .null)
    (h : check form d.2 (d.1.normalise v) = .ok r) {j : Json} (hj : v.encode = .ok j) (once : Bool) :
    check form d.2 (d.1.normalise (j.shown once)) = .ok r := by
  rw [Value.normalise_of_keysOnce d.1 (Value.keysOnce_of_isData hv) hne] at h
  unfold Slot.normalise
  split
  · split
    · rename_i hnull
      exact absurd (Value.eq_null_of_encode (Json.shown_eq_null hnull ▸ hj)) hne
    · rw [Json.merged_shown]
      exact hd v r j hv hkeys h hj true
  · exact hd v r j hv hkeys h hj once

/-- A field is given by the JSON form of data what it is given by the data. -/
theorem checkField_shown {form : TextForm} {d : Slot × Shape} (hd : TakesShown form d.2) {es new : Entries}
    {once : Bool} (halong : Entries.Alongside (fun v w => ∃ j, v.encode = .ok j ∧ w = j.shown once) es new)
    (hes : ∀ e ∈ es, e.2.isData = true) (hkeys : ∀ name v, d.1.find? es = some (name, v) → d.2.textKeyed v = true)
    {x : Value} (h : checkField form es d = .ok x) : checkField form new d = .ok x := by
  have hfind := d.1.find?_alongside halong
  rw [checkField] at h ⊢
  generalize hgiven : d.1.find? es = given, d.1.find? new = given' at hfind h ⊢
  cases hfind with
  | none => exact h
  | @some g g' hg =>
      obtain ⟨name, v⟩ := g
      obtain ⟨name', _⟩ := g'
      obtain ⟨rfl, j, hj, rfl⟩ := hg
      obtain ⟨e, he, rfl⟩ := Slot.mem_of_find? hgiven
      have h := Check.under_eq_ok.mp h
      refine Check.under_eq_ok.mpr ?_
      by_cases hnull : e.2 = .null
      · rw [hnull] at h hj
        rwa [(Value.shown_of_bareScalar rfl hj).1]
      · exact check_normalise_shown hd (hes e he) (hkeys _ _ hgiven) hnull h hj once

theorem items_of_isData {v : Value} (hv : v.isData = true) {xs : List Value} (h : v.items? = some xs) :
    (∀ x ∈ xs, x.isData = true) ∧ ∀ j, v.encode = .ok j →
      ∃ js, j = .array js ∧ List.Forall₂ (fun x j => x.encode = .ok j) xs js := by
  cases v with
  | list ys =>
      obtain rfl := Option.some.inj h
      exact ⟨(Value.every_list.mp hv).2, fun j => Value.encode_list_eq_ok.mp⟩
  | tuple ys =>
      obtain rfl := Option.some.inj h
      exact ⟨(Value.every_tuple.mp hv).2, fun j hj => Value.encode_list_eq_ok.mp (Value.encode_tuple ys ▸ hj)⟩
  | octets holder bs =>
      cases holder with
      | view => simp [Value.isData, Value.every] at hv
      | _ => cases h
  | record => cases hv
  | _ => cases h

/-- A record that is no report looks at all entries. -/
theorem check_record_given {form : TextForm} {kind : RecordKind} (hkind : kind.isReport = false)
    (fields : List (Slot × Shape)) (es : Entries) :
    check form (.record kind fields) (.map es) =
      (fun fs => .record kind form fs []) <$> checkFields form fields es := by
  have hcounts : es.filter kind.counts = es := List.filter_eq_self.mpr fun e _ => by
    rw [RecordKind.counts, hkind]
    cases e.2 <;> rfl
  rw [check_record_map, hcounts]

/-- A checked key is written as the text that it is. -/
theorem decodedKey_of_written {form : TextForm} {k o : Value} (h : Check.text form k = .ok o) {name : String}
    (hname : Value.memberName k.decodedKey = .ok name) : k.decodedKey = .text name := by
  cases k with
  | text s => exact congrArg Value.text (Except.ok.inj hname)
  | octets holder bs =>
      change Value.readOctets holder bs = _
      change Value.memberName (Value.readOctets holder bs) = _ at hname
      rw [Value.readOctets] at hname ⊢
      split at hname
      · exact congrArg Value.text (Except.ok.inj hname)
      · cases hname
  | _ => cases form <;> cases h

/-- Keys that are written are as distinct as they are once their octets are read. -/
theorem distinct_written {form : TextForm} {es : Entries} {ms : List (String × Json)}
    (hdistinct : (Value.decodedKeys es).Distinct)
    (h : List.Forall₂ (fun e m => (∃ o, Check.text form e.1 = .ok o) ∧ Value.memberName e.1.decodedKey = .ok m.1) es ms)
    (g : Json → Value) : Entries.Distinct (ms.map fun m => (.text m.1, g m.2)) := by
  refine Entries.distinct_of_keys ?_ hdistinct
  clear hdistinct
  induction h with
  | nil => rfl
  | cons he _ ih =>
      obtain ⟨⟨o, hkey⟩, hname⟩ := he
      rw [Value.decodedKeys] at ih ⊢
      rw [List.map_cons, List.map_cons, List.map_cons, List.map_cons, ih, decodedKey_of_written hkey hname]

section

variable {form : TextForm} {s : Shape}

theorem TakesShown.optional (hs : TakesShown form s) : TakesShown form (.optional s) := by
  intro v r j hv hkeys h hj once
  by_cases hnull : v = .null
  · subst hnull
    rwa [(Value.shown_of_bareScalar rfl hj).1]
  · have hshown : j.shown once ≠ .null := fun heq =>
      hnull (Value.eq_null_of_encode (Json.shown_eq_null heq ▸ hj))
    rw [check_optional hnull] at h
    rw [check_optional hshown]
    exact hs v r j hv hkeys h hj once

theorem TakesShown.list (hs : TakesShown form s) : TakesShown form (.list s) := by
  intro v r j hv hkeys h hj once
  rw [check] at h
  split at h
  · rename_i xs hitems
    obtain ⟨ys, hys, rfl⟩ := map_eq_ok.mp h
    obtain ⟨hxs, hencode⟩ := items_of_isData hv hitems
    obtain ⟨js, rfl, hjs⟩ := hencode j hj
    rw [textKeyed, hitems, Option.getD_some, List.all_eq_true] at hkeys
    have hall := (List.forall₂_and_left _ _).mpr
      ⟨fun x hx => (⟨hxs x hx, hkeys x hx⟩ : x.isData = true ∧ s.textKeyed x = true), hjs⟩
    have hshown : List.Forall₂ (fun w y => check form s w = .ok y) (js.map (Json.shown once)) ys := by
      rw [List.forall₂_map_left_iff]
      refine (forall₂_forall₂_iff.mp ⟨xs, hall.flip, Check.items_eq_ok.mp hys⟩).imp ?_
      rintro i y ⟨x, ⟨⟨hx, hkeyed⟩, hi⟩, hy⟩
      exact hs x y i hx hkeyed hy hi once
    rw [Json.shown_array, check, Value.items?]
    simp only [Check.items_eq_ok.mpr hshown, map_ok]
  · cases h

theorem TakesShown.map (hform : form ≠ .given) (hs : TakesShown form s) : TakesShown form (.map s) := by
  intro v r j hv hkeys h hj once
  cases v with
  | map es =>
      rw [check] at h
      obtain ⟨out, hout, rfl⟩ := map_eq_ok.mp h
      obtain ⟨ms, rfl, hdistinct, hms⟩ := Value.encode_map_eq_ok.mp hj
      rw [textKeyed, List.all_eq_true] at hkeys
      have hes := (Value.isData_map.mp hv).2
      have hall := (List.forall₂_and_left _ _).mpr
        ⟨fun e he => (⟨(hes e he).2, hkeys e he⟩ : e.2.isData = true ∧ s.textKeyed e.2 = true), hms⟩
      have hentries := Check.entries_eq_ok.mp hout
      have hshown : List.Forall₂ (fun n o => Check.text form n.1 = .ok o.1 ∧ check form s n.2 = .ok o.2)
          (ms.map fun m => (.text m.1, m.2.shown once)) out := by
        rw [List.forall₂_map_left_iff]
        refine (forall₂_forall₂_iff.mp ⟨es, hall.flip, hentries⟩).imp ?_
        rintro m o ⟨e, ⟨⟨he, hkeyed⟩, hname, hi⟩, hkey, hval⟩
        exact ⟨Check.text_decoded hform hkey (decodedKey_of_written hkey hname), hs _ _ _ he hkeyed hval hi once⟩
      -- no two keys become one in the text: written, they are the text that a check takes them for
      have hchecked : ∀ e ∈ es, ∃ o, Check.text form e.1 = .ok o := by
        intro e he
        obtain ⟨o, -, hkey, -⟩ := exists_mem_of_forall₂ hentries.flip he
        exact ⟨o.1, hkey⟩
      have hkeys := distinct_written hdistinct
        (((List.forall₂_and_left _ _).mpr ⟨hchecked, hms⟩).imp fun _ _ he => ⟨he.1, he.2.1⟩) (Json.shown once)
      rw [Json.shown_object hkeys, check]
      simp only [Check.entries_eq_ok.mpr hshown, map_ok]
  | _ => cases h

theorem TakesShown.record {kind : RecordKind} {fields : List (Slot × Shape)} (hkind : kind.isReport = false)
    (hfields : ∀ d ∈ fields, TakesShown form d.2) : TakesShown form (.record kind fields) := by
  intro v r j hv hkeys h hj once
  cases v with
  | map es =>
      obtain ⟨hdistinct, hes⟩ := Value.isData_map.mp hv
      obtain ⟨htexts, hkeys⟩ := textKeyed_record.mp hkeys
      obtain ⟨new, hshown, halong⟩ := Value.shown_of_textKeys hdistinct htexts hj once
      rw [check_record_given hkind] at h
      obtain ⟨fs, hfs, rfl⟩ := map_eq_ok.mp h
      have hnew : checkFields form fields new = .ok fs := by
        refine checkFields_eq_ok.mpr (((List.forall₂_and_left _ _).mpr
          ⟨fun d hd => hd, checkFields_eq_ok.mp hfs⟩).imp ?_)
        rintro d f ⟨hd, hattr, hfield⟩
        exact ⟨hattr, checkField_shown (hfields d hd) halong (fun e he => (hes e he).2) (hkeys d hd) hfield⟩
      rw [hshown, check_record_given hkind, hnew, map_ok]
  | record => cases hv
  | _ => cases h

end

end Shape

end DaemonClient
