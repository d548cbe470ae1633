import DaemonClient.Json.Reader
import DaemonClient.Proofs.Parts
import Mathlib.Data.List.Perm.Subperm

/-! Well-typed records: every declared field is there and holds a value of its shape, with text in the form that the
record has. The order of the fields, the notes and the form that a part claims for itself do not matter. Of the shapes
of all kinds a few facts are used again and again: names do not clash (`sound_shape`), and nothing nests deeper than a
reader of bodies follows (`fitsDepth_shape`). -/

namespace DaemonClient

section

variable {α β γ : Type} {R : α → β → Prop} {S : β → γ → Prop}

theorem eq_map_of_forall₂ {g : α → β} {xs : List α} {ys : List β} (h : List.Forall₂ (fun x y => y = g x) xs ys) :
    ys = xs.map g := by
  induction h with
  | nil => rfl
  | cons hxy _ ih => rw [List.map_cons, hxy, ih]

theorem exists_mem_of_forall₂ {xs : List α} {ys : List β} (h : List.Forall₂ R xs ys) {y : β} (hy : y ∈ ys) :
    ∃ x ∈ xs, R x y := by
  induction h with
  | nil => cases hy
  | @cons x y' xs ys hxy _ ih =>
      rcases List.mem_cons.mp hy with rfl | hy
      · exact ⟨x, List.mem_cons_self, hxy⟩
      · obtain ⟨x', hx', hxy'⟩ := ih hy
        exact ⟨x', List.mem_cons_of_mem _ hx', hxy'⟩

theorem exists_forall₂_iff {xs : List α} : (∃ ys, List.Forall₂ R xs ys) ↔ ∀ x ∈ xs, ∃ y, R x y := by
  induction xs with
  | nil => simp
  | cons x xs ih =>
      rw [List.forall_mem_cons, ← ih]
      constructor
      · rintro ⟨_, hx | ⟨hx, hxs⟩⟩
        exact ⟨⟨_, hx⟩, _, hxs⟩
      · rintro ⟨⟨y, hx⟩, ys, hxs⟩
        exact ⟨y :: ys, .cons hx hxs⟩

theorem forall_mem_iff_of_forall₂ {P : α → Prop} {Q : β → Prop} {xs : List α} {ys : List β}
    (h : List.Forall₂ (fun x y => Q y ↔ P x) xs ys) : (∀ y ∈ ys, Q y) ↔ ∀ x ∈ xs, P x := by
  induction h with
  | nil => simp
  | cons hxy _ ih => rw [List.forall_mem_cons, List.forall_mem_cons, hxy, ih]

/-- Two steps item by item are one step item by item. -/
theorem forall₂_forall₂_iff {xs : List α} {zs : List γ} :
    (∃ ys, List.Forall₂ R xs ys ∧ List.Forall₂ S ys zs) ↔ List.Forall₂ (fun x z => ∃ y, R x y ∧ S y z) xs zs := by
  constructor
  · rintro ⟨ys, hxs, hys⟩
    induction hxs generalizing zs with
    | nil =>
        cases hys
        exact .nil
    | cons hx _ ih =>
        cases hys with
        | cons hy hys => exact .cons ⟨_, hx, hy⟩ (ih hys)
  · intro h
    induction h with
    | nil => exact ⟨[], .nil, .nil⟩
    | cons hx _ ih =>
        obtain ⟨y, hxy, hyz⟩ := hx
        obtain ⟨ys, hxs, hys⟩ := ih
        exact ⟨y :: ys, .cons hxy hxs, .cons hyz hys⟩

end

namespace Shape

/-- Induction over shapes: what holds of the shapes of all fields holds of the record's. -/
@[elab_as_elim, induction_eliminator]
theorem induct {P : Shape → Prop} (flag : P .flag) (count : P .count) (text : P .text)
    (optional : ∀ s, P s → P (.optional s)) (list : ∀ s, P s → P (.list s)) (map : ∀ s, P s → P (.map s))
    (record : ∀ kind fields, (∀ d ∈ fields, P d.2) → P (.record kind fields)) (s : Shape) : P s :=
  @Shape.rec P (fun fields => ∀ d ∈ fields, P d.2) (fun d => P d.2) flag count text optional list map record
    (fun _ h => absurd h List.not_mem_nil) (fun _ _ hd hds => List.forall_mem_cons.mpr ⟨hd, hds⟩) (fun _ _ h => h) s

end Shape

namespace Named

theorem mem_of_lookup {fs : Named} {a : String} {x : Value} (h : fs.lookup a = some x) : (a, x) ∈ fs := by
  obtain ⟨before, after, rfl, -⟩ := List.lookup_eq_some_iff.mp h
  simp

theorem lookup_of_mem {fs : Named} (hfs : (fs.map (·.1)).Nodup) {f : String × Value} (hf : f ∈ fs) :
    fs.lookup f.1 = some f.2 := by
  induction fs with
  | nil => cases hf
  | cons f' rest ih =>
      obtain ⟨hnew, hrest⟩ := List.nodup_cons.mp hfs
      obtain ⟨a, x⟩ := f'
      rcases List.mem_cons.mp hf with rfl | hmem
      · rw [List.lookup_cons_self]
      · have hne : (f.1 == a) = false := by
          rw [beq_eq_false_iff_ne]
          rintro rfl
          exact hnew (List.mem_map.mpr ⟨f, hmem, rfl⟩)
        rw [List.lookup_cons, hne, ih hrest hmem]

end Named

/-! ### Values of a shape -/

/-- Text in a form. -/
def TextForm.holds : TextForm → Value → Bool
  | .characters, .text _ => true
  | .octets, .octets .fixed _ => true
  | .given, .text _ => true
  | .given, .octets .fixed _ => true
  | _, _ => false

/-- Text in any form is characters, or octets that stay as they are. -/
theorem TextForm.text_or_octets {form : TextForm} {v : Value} (h : form.holds v = true) :
    (∃ s, v = .text s) ∨ ∃ bs, v = .octets .fixed bs := by
  cases v with
  | text s => exact .inl ⟨s, rfl⟩
  | octets holder bs =>
      cases holder with
      | fixed => exact .inr ⟨bs, rfl⟩
      | _ => cases form <;> cases h
  | _ => cases form <;> cases h

namespace Shape

mutual

/-- A value of a shape, with text in a form. -/
def holds (form : TextForm) : Shape → Value → Bool
  | .flag, .bool _ => true
  | .count, .int _ => true
  | .text, v => form.holds v
  | .optional _, .null => true
  | .optional s, v => holds form s v
  | .list s, .list xs => xs.all (holds form s)
  | .map s, .map es => decide (Entries.Distinct es) && es.all fun e => form.holds e.1 && holds form s e.2
  | .record kind fields, .record kind' _ fs _ =>
    decide (kind' = kind) && fs.length == fields.length && fieldsHold form fields fs
  | _, _ => false

/-- All declared fields are there and hold values of their shapes. -/
def fieldsHold (form : TextForm) : List (Slot × Shape) → List (String × Value) → Bool
  | [], _ => true
  | (slot, s) :: rest, fs => (fs.lookup slot.attr).any (holds form s) && fieldsHold form rest fs

end

theorem fieldsHold_iff {form : TextForm} {fields : List (Slot × Shape)} {fs : Named} :
    fieldsHold form fields fs = true ↔ ∀ d ∈ fields, ∃ v, fs.lookup d.1.attr = some v ∧ holds form d.2 v = true := by
  induction fields with
  | nil => simp [fieldsHold]
  | cons d rest ih =>
      rw [fieldsHold, Bool.and_eq_true, ih, List.forall_mem_cons, Option.any_eq_true]

theorem holds_flag {form : TextForm} {v : Value} : holds form .flag v = true ↔ ∃ b, v = .bool b := by
  cases v <;> simp [holds]

theorem holds_count {form : TextForm} {v : Value} : holds form .count v = true ↔ ∃ n, v = .int n := by
  cases v <;> simp [holds]

/-- An optional value is null or a value of the shape. -/
theorem holds_optional {form : TextForm} {s : Shape} {v : Value} :
    holds form (.optional s) v = true ↔ v = .null ∨ v ≠ .null ∧ holds form s v = true := by
  cases v <;> simp [holds]

theorem holds_list {form : TextForm} {s : Shape} {v : Value} :
    holds form (.list s) v = true ↔ ∃ xs, v = .list xs ∧ ∀ x ∈ xs, holds form s x = true := by
  cases v <;> simp [holds]

theorem holds_map {form : TextForm} {s : Shape} {v : Value} :
    holds form (.map s) v = true ↔
      ∃ es : Entries, v = .map es ∧ es.Distinct ∧ ∀ e ∈ es, form.holds e.1 = true ∧ holds form s e.2 = true := by
  cases v <;> simp [holds]

/-- A record of a shape has the kind and exactly the declared fields, in some order. -/
theorem holds_record {form : TextForm} {kind : RecordKind} {fields : List (Slot × Shape)} {v : Value} :
    holds form (.record kind fields) v = true ↔
      ∃ form' fs ns, v = .record kind form' fs ns ∧ fs.length = fields.length ∧
        ∀ d ∈ fields, ∃ x, fs.lookup d.1.attr = some x ∧ holds form d.2 x = true := by
  cases v with
  | record kind' form' fs ns =>
      simp only [holds, Bool.and_eq_true, decide_eq_true_eq, beq_iff_eq, fieldsHold_iff, Value.record.injEq]
      constructor
      · rintro ⟨⟨rfl, hlen⟩, hfields⟩
        exact ⟨form', fs, ns, ⟨rfl, rfl, rfl, rfl⟩, hlen, hfields⟩
      · rintro ⟨_, _, _, ⟨rfl, rfl, rfl, rfl⟩, hlen, hfields⟩
        exact ⟨⟨rfl, hlen⟩, hfields⟩
  | _ => simp [holds]

/-! ### Facts about all shapes -/

/-- A shape that holds null. -/
def isOptional : Shape → Bool
  | .optional _ => true
  | _ => false

theorem optional_of_holds_null {form : TextForm} {s : Shape} (h : s.holds form .null = true) :
    ∃ s', s = .optional s' := by
  cases s with
  | optional s' => exact ⟨s', rfl⟩
  | text => cases form <;> cases h
  | _ => cases h

/-- A field that may hold null does so when it is not given. -/
def slotSound (d : Slot × Shape) : Bool :=
  match d.1.fallback with
  | some ⟨.null, true⟩ => true
  | _ => !d.2.isOptional

/-- Names of fields that tell the fields apart: no attribute name twice, no wire name twice, and no attribute name that
is also a wire name. -/
def namesSound (fields : List (Slot × Shape)) : Prop :=
  (fields.map (·.1.attr)).Nodup ∧ (fields.map (·.1.wire)).Nodup ∧
    ∀ d ∈ fields, ∀ d' ∈ fields, d.1.wire ≠ d'.1.attr

instance (fields : List (Slot × Shape)) : Decidable (namesSound fields) :=
  inferInstanceAs (Decidable (_ ∧ _ ∧ _))

theorem find?_attr {fields : List (Slot × Shape)} (hnames : namesSound fields) {d : Slot × Shape} (hd : d ∈ fields) :
    (fields.find? fun d' => d'.1.attr == d.1.attr) = some d := by
  have hattrs := hnames.1
  clear hnames
  induction fields with
  | nil => cases hd
  | cons d' rest ih =>
      rw [List.map_cons, List.nodup_cons] at hattrs
      rcases List.mem_cons.mp hd with rfl | hd
      · exact List.find?_cons_of_pos (by simp)
      · have hne : d'.1.attr ≠ d.1.attr := fun h => hattrs.1 (h ▸ List.mem_map_of_mem hd)
        rw [List.find?_cons_of_neg (by simpa using hne), ih hd hattrs.2]

/-- Fields that fill declared ones: each declared field is there once with a value of its shape, and nothing else. -/
structure Filled (form : TextForm) (fields : List (Slot × Shape)) (fs : Named) : Prop where
  length : fs.length = fields.length
  nodup : (fs.map (·.1)).Nodup
  declared : ∀ f ∈ fs, ∃ d ∈ fields, d.1.attr = f.1
  lookup : ∀ d ∈ fields, ∃ x, fs.lookup d.1.attr = some x ∧ holds form d.2 x = true

namespace Filled

variable {form : TextForm} {fields : List (Slot × Shape)} {fs : Named}

theorem lookup_eq (h : Filled form fields fs) {f : String × Value} (hf : f ∈ fs) : fs.lookup f.1 = some f.2 :=
  Named.lookup_of_mem h.nodup hf

theorem holds (h : Filled form fields fs) {d : Slot × Shape} (hd : d ∈ fields) {x : Value}
    (hx : (d.1.attr, x) ∈ fs) : d.2.holds form x = true := by
  obtain ⟨y, hy, hholds⟩ := h.lookup d hd
  obtain rfl : y = x := Option.some.inj (hy.symm.trans (h.lookup_eq hx))
  exact hholds

end Filled

/-- The fields of a record with sound names fill the declared ones, because there are as many. -/
theorem filled_of_holds {form : TextForm} {fields : List (Slot × Shape)} {fs : Named} (hnames : namesSound fields)
    (hlen : fs.length = fields.length)
    (hfields : ∀ d ∈ fields, ∃ x, fs.lookup d.1.attr = some x ∧ holds form d.2 x = true) :
    Filled form fields fs := by
  have hsub : fields.map (·.1.attr) ⊆ fs.map (·.1) := by
    intro a ha
    obtain ⟨d, hd, rfl⟩ := List.mem_map.mp ha
    obtain ⟨x, hx, -⟩ := hfields d hd
    exact List.mem_map_of_mem (Named.mem_of_lookup hx)
  have hperm := (List.subperm_of_subset hnames.1 hsub).perm_of_length_le (by simp [hlen])
  refine ⟨hlen, hperm.nodup_iff.mp hnames.1, fun f hf => ?_, hfields⟩
  exact List.mem_map.mp (hperm.mem_iff.mpr (List.mem_map_of_mem hf))

mutual

/-- All records of a shape pass a test. -/
def every (test : RecordKind → List (Slot × Shape) → Bool) : Shape → Bool
  | .flag => true
  | .count => true
  | .text => true
  | .optional s => every test s
  | .list s => every test s
  | .map s => every test s
  | .record kind fields => test kind fields && everyField test fields

/-- All records in the shapes of fields pass a test. -/
def everyField (test : RecordKind → List (Slot × Shape) → Bool) : List (Slot × Shape) → Bool
  | [] => true
  | (_, s) :: rest => every test s && everyField test rest

end

theorem everyField_iff {test : RecordKind → List (Slot × Shape) → Bool} {fields : List (Slot × Shape)} :
    everyField test fields = true ↔ ∀ d ∈ fields, d.2.every test = true := by
  induction fields with
  | nil => simp [everyField]
  | cons d rest ih => rw [everyField, Bool.and_eq_true, ih, List.forall_mem_cons]

theorem every_record {test : RecordKind → List (Slot × Shape) → Bool} {kind : RecordKind}
    {fields : List (Slot × Shape)} :
    every test (.record kind fields) = true ↔ test kind fields = true ∧ ∀ d ∈ fields, d.2.every test = true := by
  rw [every, Bool.and_eq_true, everyField_iff]

/-- A shape whose records have sound names and slots, and declare their kind's names. -/
def sound : Shape → Bool := every fun kind fields =>
  decide (namesSound fields) && fields.map (·.1.attr) == kind.slots.map (·.attr) && fields.all slotSound

theorem sound_record {kind : RecordKind} {fields : List (Slot × Shape)} :
    sound (.record kind fields) = true ↔ namesSound fields ∧ fields.map (·.1.attr) = kind.slots.map (·.attr) ∧
      ∀ d ∈ fields, slotSound d = true ∧ d.2.sound = true := by
  simp only [sound, every_record, Bool.and_eq_true, decide_eq_true_eq, beq_iff_eq, List.all_eq_true]
  constructor
  · rintro ⟨⟨⟨hnames, hattrs⟩, hslots⟩, hsound⟩
    exact ⟨hnames, hattrs, fun d hd => ⟨hslots d hd, hsound d hd⟩⟩
  · rintro ⟨hnames, hattrs, hslots⟩
    exact ⟨⟨⟨hnames, hattrs⟩, fun d hd => (hslots d hd).1⟩, fun d hd => (hslots d hd).2⟩

mutual

/-- Values of the shape are written with at most so many lists and maps inside one another. -/
def fitsDepth : Nat → Shape → Bool
  | _, .flag => true
  | _, .count => true
  | _, .text => true
  | depth, .optional s => fitsDepth depth s
  | depth + 1, .list s => fitsDepth depth s
  | depth + 1, .map s => fitsDepth depth s
  | depth + 1, .record _ fields => fieldsFitDepth depth fields
  | 0, _ => false

/-- Fields whose shapes fit a depth. -/
def fieldsFitDepth : Nat → List (Slot × Shape) → Bool
  | _, [] => true
  | depth, (_, s) :: rest => fitsDepth depth s && fieldsFitDepth depth rest

end

theorem fieldsFitDepth_iff {depth : Nat} {fields : List (Slot × Shape)} :
    fieldsFitDepth depth fields = true ↔ ∀ d ∈ fields, d.2.fitsDepth depth = true := by
  induction fields with
  | nil => simp [fieldsFitDepth]
  | cons d rest ih => rw [fieldsFitDepth, Bool.and_eq_true, ih, List.forall_mem_cons]

theorem fitsDepth_list {depth : Nat} {s : Shape} :
    fitsDepth depth (.list s) = true ↔ ∃ inner, depth = inner + 1 ∧ s.fitsDepth inner = true := by
  cases depth <;> simp [fitsDepth]

theorem fitsDepth_map {depth : Nat} {s : Shape} :
    fitsDepth depth (.map s) = true ↔ ∃ inner, depth = inner + 1 ∧ s.fitsDepth inner = true := by
  cases depth <;> simp [fitsDepth]

theorem fitsDepth_record {depth : Nat} {kind : RecordKind} {fields : List (Slot × Shape)} :
    fitsDepth depth (.record kind fields) = true ↔
      ∃ inner, depth = inner + 1 ∧ ∀ d ∈ fields, d.2.fitsDepth inner = true := by
  cases depth <;> simp [fitsDepth, fieldsFitDepth_iff]

end Shape

namespace RecordKind

theorem shape_eq (kind : RecordKind) : kind.shape = .record kind kind.fields := by cases kind <;> rfl

theorem sound_shape (kind : RecordKind) : kind.shape.sound = true := by cases kind <;> decide

end RecordKind
end DaemonClient
