import DaemonClient.Proofs.Typed
import DaemonClient.Record.Wire
import Mathlib.Data.List.Nodup

/-! The wire form and its textual view do not see how a record holds its text: reading octets as text
(`textual_wireIn_decoded`) and recasting records (`wireIn_recast`) change neither. What a well-typed value is written
as is a document that fits the depth of its shape (`isDocument_of_textual`), and its octets read as text with no two
keys of a map alike (`legible_of_textual`). -/

namespace DaemonClient.Value
open Outcome

/-! ### Equations -/

theorem wireItems_eq_map (place : Option Shape) (xs : List Value) : wireItems place xs = xs.map (wireIn place) := by
  induction xs with
  | nil => rfl
  | cons x xs ih => rw [wireItems, ih, List.map_cons]

theorem wireEntries_eq_map (place : Option Shape) (es : Entries) :
    wireEntries place es = es.map fun e => (e.1, wireIn place e.2) := by
  induction es with
  | nil => rfl
  | cons e es ih => rw [wireEntries, ih, List.map_cons]

/-- The wire entry of a field, if the field is declared and does not hold null. -/
def wireField? (declared : List (Slot × Shape)) (f : String × Value) : Option (Value × Value) :=
  match f.2 with
  | null => none
  | v => (declared.find? fun d => d.1.attr == f.1).map fun d => (text d.1.wire, wireIn (some d.2) v)

theorem wireFields_eq_filterMap (declared : List (Slot × Shape)) (fs : Named) :
    wireFields declared fs = fs.filterMap (wireField? declared) := by
  induction fs with
  | nil => rfl
  | cons f fs ih =>
      obtain ⟨a, v⟩ := f
      cases hd : declared.find? fun d => d.1.attr == a <;> cases v <;>
        simp [wireFields, wireField?, hd, ih, List.filterMap_cons]

theorem wireField?_of_ne_null {declared : List (Slot × Shape)} {a : String} {v : Value} (h : v ≠ null) :
    wireField? declared (a, v) =
      (declared.find? fun d => d.1.attr == a).map fun d => (text d.1.wire, wireIn (some d.2) v) := by
  cases v with
  | null => exact absurd rfl h
  | _ => rfl

/-- A field has a wire entry where it is declared and does not hold null. -/
theorem wireField?_eq_some {declared : List (Slot × Shape)} (hnames : Shape.namesSound declared)
    {f : String × Value} {e : Value × Value} :
    wireField? declared f = some e ↔
      f.2 ≠ null ∧ ∃ d ∈ declared, d.1.attr = f.1 ∧ e = (text d.1.wire, wireIn (some d.2) f.2) := by
  obtain ⟨a, x⟩ := f
  constructor
  · intro he
    have hx : x ≠ null := by
      rintro rfl
      cases he
    rw [wireField?_of_ne_null hx, Option.map_eq_some_iff] at he
    obtain ⟨d, hd, rfl⟩ := he
    exact ⟨hx, d, List.mem_of_find?_eq_some hd, by simpa using List.find?_some hd, rfl⟩
  · rintro ⟨hx, d, hd, rfl, rfl⟩
    rw [wireField?_of_ne_null hx, Shape.find?_attr hnames hd, Option.map_some]

/-- The wire entries of a record: those of its declared fields that do not hold null. -/
theorem mem_wireFields {declared : List (Slot × Shape)} (hnames : Shape.namesSound declared) {fs : Named}
    {e : Value × Value} :
    e ∈ fs.filterMap (wireField? declared) ↔
      ∃ d ∈ declared, ∃ x, (d.1.attr, x) ∈ fs ∧ x ≠ null ∧ e = (text d.1.wire, wireIn (some d.2) x) := by
  simp only [List.mem_filterMap, wireField?_eq_some hnames]
  constructor
  · rintro ⟨⟨a, x⟩, hf, hx, d, hd, rfl, rfl⟩
    exact ⟨d, hd, x, hf, hx, rfl⟩
  · rintro ⟨d, hd, x, hf, hx, rfl⟩
    exact ⟨_, hf, hx, d, hd, rfl, rfl⟩

/-- Different fields have wire entries under different names. -/
theorem distinct_wireFields {declared : List (Slot × Shape)} (hnames : Shape.namesSound declared) {fs : Named}
    (hfs : (fs.map (·.1)).Nodup) : Entries.Distinct (fs.filterMap (wireField? declared)) := by
  rw [Entries.Distinct, List.pairwise_filterMap]
  refine (List.pairwise_map.mp hfs).imp fun {f f'} hne e he e' he' => ?_
  obtain ⟨-, d, hd, hattr, rfl⟩ := (wireField?_eq_some hnames).mp he
  obtain ⟨-, d', hd', hattr', rfl⟩ := (wireField?_eq_some hnames).mp he'
  rw [same_text, beq_eq_false_iff_ne]
  intro hwire
  rw [List.inj_on_of_nodup_map hnames.2.1 hd' hd hwire] at hattr'
  exact hne (hattr.symm.trans hattr')

theorem wireIn_list (place : Option Shape) (xs : List Value) :
    wireIn place (list xs) = list (xs.map (wireIn (place.bind Shape.items?))) := by
  rw [wireIn, wireItems_eq_map]

theorem wireIn_tuple (place : Option Shape) (xs : List Value) :
    wireIn place (tuple xs) = tuple (xs.map (wireIn none)) := by
  rw [wireIn, wireItems_eq_map]

theorem wireIn_map (place : Option Shape) (es : Entries) :
    wireIn place (map es) = map (es.map fun e => (e.1, wireIn (place.bind Shape.values?) e.2)) := by
  rw [wireIn, wireEntries_eq_map]

theorem wireIn_record (place : Option Shape) (kind : RecordKind) (form : TextForm) (fs ns : Named) :
    wireIn place (record kind form fs ns) =
      map (fs.filterMap (wireField? ((place.bind Shape.fields?).getD kind.fields))) := by
  rw [wireIn, wireFields_eq_filterMap]

/-- A place that may also hold null is no other place. -/
theorem wireIn_optional (s : Shape) (v : Value) : wireIn (some (.optional s)) v = wireIn (some s) v := by
  cases v <;> rfl

theorem wireIn_eq_null {place : Option Shape} {v : Value} : wireIn place v = null ↔ v = null := by
  cases v <;> simp [wireIn]

theorem textual_eq_null {v : Value} : textual v = .ok null ↔ v = null := by
  cases v <;> simp [textual, map_eq_ok]

/-! ### What the wire form does not see -/

theorem wireField?_congr {declared : List (Slot × Shape)} {a : String} {v w : Value} (hnull : w = null ↔ v = null)
    (h : ∀ place, wireIn place w = wireIn place v) : wireField? declared (a, w) = wireField? declared (a, v) := by
  by_cases hv : v = null
  · rw [hv, hnull.mpr hv]
  · rw [wireField?_of_ne_null hv, wireField?_of_ne_null (fun hw => hv (hnull.mp hw))]
    simp only [h]

/-- The wire form does not tell the form of a record's text. -/
theorem wireIn_recast (form : TextForm) (v : Value) (place : Option Shape) :
    wireIn place (v.recast form) = wireIn place v := by
  induction v generalizing place with
  | list xs ih =>
      rw [recast_list, wireIn_list, wireIn_list, List.map_map]
      exact congrArg list (List.map_congr_left fun x hx => ih x hx _)
  | tuple xs ih =>
      rw [recast_tuple, wireIn_tuple, wireIn_tuple, List.map_map]
      exact congrArg tuple (List.map_congr_left fun x hx => ih x hx _)
  | map es ih =>
      rw [recast_map, wireIn_map, wireIn_map, List.map_map]
      exact congrArg map (List.map_congr_left fun e he => Prod.ext rfl ((ih e he).2 _))
  | record kind form' fs ns ih =>
      rw [recast_record, wireIn_record, wireIn_record, List.filterMap_map]
      exact congrArg map (List.filterMap_congr fun f hf => wireField?_congr recast_eq_null (ih f hf))
  | _ => rfl

theorem textualItems_congr {xs ys : List Value} (h : List.Forall₂ (fun x y => textual x = textual y) xs ys) :
    textualItems xs = textualItems ys := by
  induction h with
  | nil => rfl
  | cons hx _ ih => rw [textualItems, textualItems, hx, ih]

/-- Entries with one view each have one view. -/
def SameView (e e' : Value × Value) : Prop := textual e.1 = textual e'.1 ∧ textual e.2 = textual e'.2

theorem textualEntries_congr {es es' : Entries} (h : List.Forall₂ SameView es es') (done : Entries) :
    textualEntries done es = textualEntries done es' := by
  induction h generalizing done with
  | nil => rfl
  | cons he _ ih => simp only [textualEntries, he.1, he.2, ih]

theorem textual_readOctets (holder : OctetHolder) (bs : List UInt8) :
    textual (readOctets holder bs) = textual (octets holder bs) := by
  rw [readOctets]
  split
  · rename_i s hs
    rw [textual_octets_eq_ok.mpr ⟨s, rfl, Utf8.decode_eq_ok.mp hs⟩]
    rfl
  · rfl

theorem textual_decodedKey (k : Value) : textual (decodedKey k) = textual k := by
  cases k with
  | octets holder bs => exact textual_readOctets holder bs
  | _ => rfl

theorem wireField?_sameView {declared : List (Slot × Shape)} {a : String} {v w : Value} (hnull : w = null ↔ v = null)
    (h : ∀ place, textual (wireIn place w) = textual (wireIn place v)) :
    Option.Rel SameView (wireField? declared (a, w)) (wireField? declared (a, v)) := by
  by_cases hv : v = null
  · rw [hv, hnull.mpr hv]
    exact .none
  · rw [wireField?_of_ne_null hv, wireField?_of_ne_null (fun hw => hv (hnull.mp hw))]
    cases declared.find? fun d => d.1.attr == a with
    | none => exact .none
    | some d => exact .some ⟨rfl, h _⟩

/-- The textual view of a wire form does not tell octets from the text that they are. -/
theorem textual_wireIn_decoded (v : Value) (place : Option Shape) :
    textual (wireIn place v.decoded) = textual (wireIn place v) := by
  induction v generalizing place with
  | octets holder bs =>
      have hwire : ∀ w, wireIn place (readOctets w bs) = readOctets w bs := by
        intro w
        rw [readOctets]
        split <;> rfl
      exact (congrArg textual (hwire holder)).trans (textual_readOctets holder bs)
  | list xs ih =>
      rw [decoded_list, wireIn_list, wireIn_list, List.map_map, textual, textual]
      refine congrArg _ (textualItems_congr ?_)
      rw [List.forall₂_map_left_iff, List.forall₂_map_right_iff, List.forall₂_same]
      exact fun x hx => ih x hx _
  | tuple xs ih =>
      rw [decoded_tuple, wireIn_tuple, wireIn_tuple, List.map_map, textual, textual]
      refine congrArg _ (textualItems_congr ?_)
      rw [List.forall₂_map_left_iff, List.forall₂_map_right_iff, List.forall₂_same]
      exact fun x hx => ih x hx _
  | map es ih =>
      rw [decoded_map, wireIn_map, wireIn_map, List.map_map, textual, textual]
      refine congrArg _ (textualEntries_congr ?_ [])
      rw [List.forall₂_map_left_iff, List.forall₂_map_right_iff, List.forall₂_same]
      exact fun e he => ⟨textual_decodedKey e.1, (ih e he).2 _⟩
  | record kind form fs ns ih =>
      rw [decoded_record, wireIn_record, wireIn_record, List.filterMap_map, textual, textual]
      refine congrArg _ (textualEntries_congr ?_ [])
      refine List.rel_filterMap (R := fun f g => f = g ∧ f ∈ fs) ?_ ?_
      · rintro f _ ⟨rfl, hf⟩
        exact wireField?_sameView decoded_eq_null (ih f hf)
      · exact List.forall₂_same.mpr fun f hf => ⟨rfl, hf⟩
  | _ => rfl

/-! ### What a well-typed value is written as -/

/-- What a field holds that is not null has a view if its record has one. -/
theorem exists_textual_of_mem {declared : List (Slot × Shape)} (hnames : Shape.namesSound declared) {fs : Named}
    {new : Entries}
    (hnew : List.Forall₂ (fun e n => e.1.textual = .ok n.1 ∧ e.2.textual = .ok n.2)
      (fs.filterMap (wireField? declared)) new)
    {d : Slot × Shape} (hd : d ∈ declared) {x : Value} (hx : (d.1.attr, x) ∈ fs) (hnull : x ≠ null) :
    ∃ t, (text d.1.wire, t) ∈ new ∧ (wireIn (some d.2) x).textual = .ok t := by
  obtain ⟨⟨k, t⟩, hn, hkey, hval⟩ := exists_mem_of_forall₂ hnew.flip
    ((mem_wireFields hnames).mpr ⟨d, hd, x, hx, hnull, rfl⟩)
  obtain rfl := Except.ok.inj hkey
  exact ⟨t, hn, hval⟩

/-- Text is its own wire form wherever it stands. -/
theorem wireIn_of_holds {form : TextForm} {v : Value} (hv : form.holds v = true) (place : Option Shape) :
    wireIn place v = v := by
  rcases TextForm.text_or_octets hv with ⟨s, rfl⟩ | ⟨bs, rfl⟩ <;> rfl

theorem textual_text_of_holds {form : TextForm} {v t : Value} (hv : form.holds v = true) (h : textual v = .ok t) :
    ∃ s, t = .text s := by
  rcases TextForm.text_or_octets hv with ⟨s, rfl⟩ | ⟨bs, rfl⟩
  · exact ⟨s, (Except.ok.inj h).symm⟩
  · obtain ⟨s, rfl, -⟩ := textual_octets_eq_ok.mp h
    exact ⟨s, rfl⟩

/-- What a well-typed value is written as stands for a document that fits the depth of its shape. -/
theorem isDocument_of_textual {form : TextForm} {s : Shape} (hs : s.sound = true) {depth : Nat}
    (hdepth : s.fitsDepth depth = true) {v t : Value} (hv : s.holds form v = true)
    (h : textual (wireIn (some s) v) = .ok t) : t.isDocument depth = true := by
  induction s generalizing depth v t with
  | flag =>
      obtain ⟨b, rfl⟩ := Shape.holds_flag.mp hv
      obtain rfl := Except.ok.inj h
      cases depth <;> rfl
  | count =>
      obtain ⟨n, rfl⟩ := Shape.holds_count.mp hv
      obtain rfl := Except.ok.inj h
      cases depth <;> rfl
  | text =>
      rw [Shape.holds] at hv
      rw [wireIn_of_holds hv] at h
      obtain ⟨s, rfl⟩ := textual_text_of_holds hv h
      cases depth <;> rfl
  | optional s ih =>
      rcases Shape.holds_optional.mp hv with rfl | ⟨-, hv⟩
      · obtain rfl := Except.ok.inj h
        cases depth <;> rfl
      · exact ih hs (by rwa [Shape.fitsDepth] at hdepth) hv (wireIn_optional s v ▸ h)
  | list s ih =>
      obtain ⟨xs, rfl, hxs⟩ := Shape.holds_list.mp hv
      obtain ⟨depth, rfl, hinner⟩ := Shape.fitsDepth_list.mp hdepth
      rw [wireIn_list] at h
      obtain ⟨ys, rfl, hys⟩ := textual_list_eq_ok.mp h
      refine isDocument_list.mpr ⟨depth, rfl, fun y hy => ?_⟩
      obtain ⟨w, hw, hwy⟩ := exists_mem_of_forall₂ hys hy
      obtain ⟨x, hx, rfl⟩ := List.mem_map.mp hw
      exact ih hs hinner (hxs x hx) hwy
  | map s ih =>
      obtain ⟨es, rfl, -, hes⟩ := Shape.holds_map.mp hv
      obtain ⟨depth, rfl, hinner⟩ := Shape.fitsDepth_map.mp hdepth
      rw [wireIn_map] at h
      obtain ⟨new, rfl, -, hnew⟩ := textual_map_eq_ok h
      refine isDocument_map.mpr ⟨depth, rfl, fun n hn => ?_⟩
      obtain ⟨w, hw, hkey, hval⟩ := exists_mem_of_forall₂ hnew hn
      obtain ⟨e, he, rfl⟩ := List.mem_map.mp hw
      exact ⟨textual_text_of_holds (hes e he).1 hkey, ih hs hinner (hes e he).2 hval⟩
  | record kind fields ih =>
      obtain ⟨form', fs, ns, rfl, hlen, hfields⟩ := Shape.holds_record.mp hv
      obtain ⟨hnames, -, hslots⟩ := Shape.sound_record.mp hs
      have hfilled := Shape.filled_of_holds hnames hlen hfields
      obtain ⟨depth, rfl, hfits⟩ := Shape.fitsDepth_record.mp hdepth
      rw [wireIn_record] at h
      obtain ⟨new, rfl, -, hnew⟩ := textual_map_eq_ok h
      refine isDocument_map.mpr ⟨depth, rfl, fun n hn => ?_⟩
      obtain ⟨w, hw, hkey, hval⟩ := exists_mem_of_forall₂ hnew hn
      obtain ⟨d, hd, x, hx, -, rfl⟩ := (mem_wireFields hnames).mp hw
      exact ⟨⟨_, (Except.ok.inj hkey).symm⟩, ih d hd (hslots d hd).2 (hfits d hd) (hfilled.holds hd hx) hval⟩

/-! ### Values that can be written -/

/-- A text in any form is one of characters once it is read. -/
theorem decodedKey_of_textual {form : TextForm} {k t : Value} (hk : form.holds k = true) (h : k.textual = .ok t) :
    decodedKey k = t ∧ TextForm.characters.holds t = true := by
  rcases TextForm.text_or_octets hk with ⟨s, rfl⟩ | ⟨bs, rfl⟩
  · obtain rfl := Except.ok.inj h
    exact ⟨rfl, rfl⟩
  · obtain ⟨s, rfl, rfl⟩ := textual_octets_eq_ok.mp h
    refine ⟨?_, rfl⟩
    change readOctets .fixed (Utf8.encode s) = text s
    rw [readOctets, Utf8.decode_encode]

/-- The keys of a textual view are the keys of the map, read as text. -/
theorem decodedKeys_of_textual {form : TextForm} {es new : Entries} (g : Value → Value)
    (h : List.Forall₂ (fun e n => form.holds e.1 = true ∧ textual e.1 = .ok n.1) es new) :
    new.map (·.1) = (es.map fun e => (decodedKey e.1, g e.2)).map (·.1) := by
  induction h with
  | nil => rfl
  | cons he _ ih => rw [List.map_cons, List.map_cons, List.map_cons, ih, (decodedKey_of_textual he.1 he.2).1]

theorem decoded_eq_decodedKey {form : TextForm} {k : Value} (hk : form.holds k = true) : k.decoded = decodedKey k := by
  rcases TextForm.text_or_octets hk with ⟨s, rfl⟩ | ⟨bs, rfl⟩ <;> rfl

/-- A well-typed value that can be written: all its octets read as text, and no two keys of one map as the same. -/
inductive Legible (form : TextForm) : Shape → Value → Prop
  | flag (b : Bool) : Legible form .flag (bool b)
  | count (n : Int) : Legible form .count (int n)
  | text {v : Value} {u : String} (hv : form.holds v = true) (hread : decodedKey v = Value.text u) :
    Legible form .text v
  | null (s : Shape) : Legible form (.optional s) null
  | optional {s : Shape} {v : Value} (hne : v ≠ null) (h : Legible form s v) : Legible form (.optional s) v
  | list {s : Shape} {xs : List Value} (h : ∀ x ∈ xs, Legible form s x) : Legible form (.list s) (list xs)
  | map {s : Shape} {es : Entries} (hdistinct : Entries.Distinct (es.map fun e => (decodedKey e.1, e.2.decoded)))
    (hkeys : ∀ e ∈ es, form.holds e.1 = true ∧ ∃ u, decodedKey e.1 = Value.text u)
    (h : ∀ e ∈ es, Legible form s e.2) : Legible form (.map s) (map es)
  | record {kind : RecordKind} {fields : List (Slot × Shape)} {form' : TextForm} {fs ns : Named}
    (hnames : Shape.namesSound fields) (hattrs : fields.map (·.1.attr) = kind.slots.map (·.attr))
    (hfilled : Shape.Filled form fields fs) (h : ∀ d ∈ fields, ∀ x, (d.1.attr, x) ∈ fs → Legible form d.2 x) :
    Legible form (.record kind fields) (record kind form' fs ns)

/-- A well-typed value with a textual view can be written. -/
theorem legible_of_textual {form : TextForm} {s : Shape} (hs : s.sound = true) {v t : Value}
    (hv : s.holds form v = true) (h : (wireIn (some s) v).textual = .ok t) : Legible form s v := by
  induction s generalizing v t with
  | flag =>
      obtain ⟨b, rfl⟩ := Shape.holds_flag.mp hv
      exact .flag b
  | count =>
      obtain ⟨n, rfl⟩ := Shape.holds_count.mp hv
      exact .count n
  | text =>
      rw [Shape.holds] at hv
      rw [wireIn_of_holds hv] at h
      obtain ⟨u, rfl⟩ := textual_text_of_holds hv h
      exact .text hv (decodedKey_of_textual hv h).1
  | optional s ih =>
      rcases Shape.holds_optional.mp hv with rfl | ⟨hne, hv⟩
      · exact .null s
      · exact .optional hne (ih hs hv (wireIn_optional s v ▸ h))
  | list s ih =>
      obtain ⟨xs, rfl, hxs⟩ := Shape.holds_list.mp hv
      rw [wireIn_list] at h
      obtain ⟨ys, -, hys⟩ := textual_list_eq_ok.mp h
      rw [List.forall₂_map_left_iff] at hys
      apply Legible.list
      intro x hx
      obtain ⟨y, -, hy⟩ := exists_mem_of_forall₂ hys.flip hx
      exact ih hs (hxs x hx) hy
  | map s ih =>
      obtain ⟨es, rfl, -, hes⟩ := Shape.holds_map.mp hv
      rw [wireIn_map] at h
      obtain ⟨new, -, hdistinct, hnew⟩ := textual_map_eq_ok h
      rw [List.forall₂_map_left_iff] at hnew
      have hkeys := decodedKeys_of_textual decoded
        (((List.forall₂_and_left _ _).mpr ⟨hes, hnew⟩).imp fun _ _ he => ⟨he.1.1, he.2.1⟩)
      refine .map (Entries.distinct_of_keys hkeys hdistinct) (fun e he => ?_) fun e he => ?_
      · obtain ⟨n, -, hkey, -⟩ := exists_mem_of_forall₂ hnew.flip he
        obtain ⟨u, hu⟩ := textual_text_of_holds (hes e he).1 hkey
        exact ⟨(hes e he).1, u, hu ▸ (decodedKey_of_textual (hes e he).1 hkey).1⟩
      · obtain ⟨n, -, -, hval⟩ := exists_mem_of_forall₂ hnew.flip he
        exact ih hs (hes e he).2 hval
  | record kind fields ih =>
      obtain ⟨form', fs, ns, rfl, hlen, hfields⟩ := Shape.holds_record.mp hv
      obtain ⟨hnames, hattrs, hslots⟩ := Shape.sound_record.mp hs
      have hfilled := Shape.filled_of_holds hnames hlen hfields
      rw [wireIn_record] at h
      obtain ⟨new, -, -, hnew⟩ := textual_map_eq_ok h
      apply Legible.record hnames hattrs hfilled
      intro d hd x hx
      by_cases hnull : x = null
      · subst hnull
        obtain ⟨s, hs⟩ := Shape.optional_of_holds_null (hfilled.holds hd hx)
        rw [hs]
        exact .null s
      · obtain ⟨t, -, ht⟩ := exists_textual_of_mem hnames hnew hd hx hnull
        exact ih d hd (hslots d hd).2 (hfilled.holds hd hx) ht

end DaemonClient.Value
