import DaemonClient.Proofs.Textual
import DaemonClient.Record.Shape
import DaemonClient.Value.Named

/-! Values part by part: tests that every part of a value passes, and views that rewrite each part. Octets are read as
text wherever they are a value or a key (`decoded`), coinciding keys are merged (`condensed`), and records take a form
of text (`recast`) or are as a reader makes them, with their declared fields in order and nothing else (`fresh`). -/

namespace DaemonClient

theorem map_eq_self {α : Type} {g : α → α} {xs : List α} (h : ∀ x ∈ xs, g x = x) : xs.map g = xs :=
  (List.map_congr_left h).trans (List.map_id xs)

namespace RecordKind

/-- Fields in declared order, under their declared names. -/
def inOrder (kind : RecordKind) (fs : Named) : Named :=
  kind.slots.map fun s => (s.attr, (fs.lookup s.attr).getD .null)

theorem lookup_map (fs : Named) (g : Value → Value) (a : String) :
    List.lookup a (fs.map fun f => (f.1, g f.2)) = (fs.lookup a).map g := by
  induction fs with
  | nil => rfl
  | cons f fs ih =>
      rw [List.map_cons, List.lookup_cons, List.lookup_cons, ih]
      cases a == f.1 <;> rfl

theorem inOrder_map (kind : RecordKind) (fs : Named) {g : Value → Value} (hg : g .null = .null) :
    kind.inOrder (fs.map fun f => (f.1, g f.2)) =
      (kind.slots.map (·.attr)).map fun a => (a, g ((fs.lookup a).getD .null)) := by
  rw [inOrder, List.map_map]
  apply List.map_congr_left
  intro s _
  rw [lookup_map, Function.comp_apply]
  cases fs.lookup s.attr with
  | none => simp [hg]
  | some x => rfl

end RecordKind

namespace Value

/-! ### Tests -/

def isNull : Value → Bool
  | null => true
  | _ => false

theorem isNull_iff {v : Value} : v.isNull = true ↔ v = null := by cases v <;> simp [isNull]

theorem isNull_eq_false {v : Value} : v.isNull = false ↔ v ≠ null := by cases v <;> simp [isNull]

mutual

/-- A value and all its parts pass a test: items, keys, values under keys, and fields. -/
def every (test : Value → Bool) : Value → Bool
  | list xs => test (list xs) && everyItem test xs
  | tuple xs => test (tuple xs) && everyItem test xs
  | map es => test (map es) && everyEntry test es
  | record kind form fs ns => test (record kind form fs ns) && everyField test fs
  | v => test v

def everyItem (test : Value → Bool) : List Value → Bool
  | [] => true
  | x :: xs => every test x && everyItem test xs

/-- All keys, all values under them and their parts pass a test. -/
def everyEntry (test : Value → Bool) : List (Value × Value) → Bool
  | [] => true
  | (k, v) :: es => every test k && every test v && everyEntry test es

def everyField (test : Value → Bool) : List (String × Value) → Bool
  | [] => true
  | (_, v) :: fs => every test v && everyField test fs

end

section

variable {test : Value → Bool}

theorem everyItem_iff {xs : List Value} : everyItem test xs = true ↔ ∀ x ∈ xs, every test x = true := by
  induction xs with
  | nil => simp [everyItem]
  | cons x xs ih => rw [everyItem, Bool.and_eq_true, ih, List.forall_mem_cons]

theorem everyEntry_iff {es : Entries} :
    everyEntry test es = true ↔ ∀ e ∈ es, every test e.1 = true ∧ every test e.2 = true := by
  induction es with
  | nil => simp [everyEntry]
  | cons e es ih => rw [everyEntry, Bool.and_eq_true, Bool.and_eq_true, ih, List.forall_mem_cons]

theorem everyField_iff {fs : Named} : everyField test fs = true ↔ ∀ f ∈ fs, every test f.2 = true := by
  induction fs with
  | nil => simp [everyField]
  | cons f fs ih => rw [everyField, Bool.and_eq_true, ih, List.forall_mem_cons]

theorem every_list {xs : List Value} :
    every test (list xs) = true ↔ test (list xs) = true ∧ ∀ x ∈ xs, every test x = true := by
  rw [every, Bool.and_eq_true, everyItem_iff]

theorem every_tuple {xs : List Value} :
    every test (tuple xs) = true ↔ test (tuple xs) = true ∧ ∀ x ∈ xs, every test x = true := by
  rw [every, Bool.and_eq_true, everyItem_iff]

theorem every_map {es : Entries} :
    every test (map es) = true ↔
      test (map es) = true ∧ ∀ e ∈ es, every test e.1 = true ∧ every test e.2 = true := by
  rw [every, Bool.and_eq_true, everyEntry_iff]

theorem every_record {kind : RecordKind} {form : TextForm} {fs ns : Named} :
    every test (record kind form fs ns) = true ↔
      test (record kind form fs ns) = true ∧ ∀ f ∈ fs, every test f.2 = true := by
  rw [every, Bool.and_eq_true, everyField_iff]

end

theorem every_mono {test test' : Value → Bool} (h : ∀ v, test v = true → test' v = true) {v : Value}
    (hv : every test v = true) : every test' v = true := by
  induction v with
  | list xs ih =>
      obtain ⟨hself, hxs⟩ := every_list.mp hv
      exact every_list.mpr ⟨h _ hself, fun x hx => ih x hx (hxs x hx)⟩
  | tuple xs ih =>
      obtain ⟨hself, hxs⟩ := every_tuple.mp hv
      exact every_tuple.mpr ⟨h _ hself, fun x hx => ih x hx (hxs x hx)⟩
  | map es ih =>
      obtain ⟨hself, hes⟩ := every_map.mp hv
      exact every_map.mpr ⟨h _ hself, fun e he => ⟨(ih e he).1 (hes e he).1, (ih e he).2 (hes e he).2⟩⟩
  | record kind form fs ns ih =>
      obtain ⟨hself, hfs⟩ := every_record.mp hv
      exact every_record.mpr ⟨h _ hself, fun f hf => ih f hf (hfs f hf)⟩
  | _ => exact h _ hv

/-! ### Views -/

/-- A way to rewrite a value: what becomes of octets, of the entries of a map and of a record, once their parts are
rewritten. -/
structure View where
  octets : OctetHolder → List UInt8 → Value := Value.octets
  entries : Entries → Entries := fun es => es
  record : RecordKind → TextForm → Named → Named → Value := Value.record

mutual

/-- A value as a view shows it. -/
def view (w : View) : Value → Value
  | octets holder bs => w.octets holder bs
  | list xs => list (viewItems w xs)
  | tuple xs => tuple (viewItems w xs)
  | map es => map (w.entries (viewEntries w es))
  | record kind form fs ns => w.record kind form (viewFields w fs) ns
  | v => v

def viewItems (w : View) : List Value → List Value
  | [] => []
  | x :: xs => view w x :: viewItems w xs

/-- Entries as a view shows them. Of keys only octets can look different. -/
def viewEntries (w : View) : List (Value × Value) → List (Value × Value)
  | [] => []
  | (octets holder bs, v) :: es => (w.octets holder bs, view w v) :: viewEntries w es
  | (k, v) :: es => (k, view w v) :: viewEntries w es

def viewFields (w : View) : List (String × Value) → List (String × Value)
  | [] => []
  | (a, v) :: fs => (a, view w v) :: viewFields w fs

end

/-- A key as a view shows it. -/
def viewKey (w : View) : Value → Value
  | octets holder bs => w.octets holder bs
  | k => k

section

variable (w : View)

theorem viewItems_eq_map (xs : List Value) : viewItems w xs = xs.map (view w) := by
  induction xs with
  | nil => rfl
  | cons x xs ih => rw [viewItems, ih, List.map_cons]

theorem viewEntries_eq_map (es : Entries) : viewEntries w es = es.map fun e => (viewKey w e.1, view w e.2) := by
  induction es with
  | nil => rfl
  | cons e es ih =>
      obtain ⟨k, v⟩ := e
      cases k <;> rw [viewEntries, ih, List.map_cons] <;> first | rfl | simp

theorem viewFields_eq_map (fs : Named) : viewFields w fs = fs.map fun f => (f.1, view w f.2) := by
  induction fs with
  | nil => rfl
  | cons f fs ih => rw [viewFields, ih, List.map_cons]

theorem view_list (xs : List Value) : view w (list xs) = list (xs.map (view w)) := by
  rw [view, viewItems_eq_map]

theorem view_tuple (xs : List Value) : view w (tuple xs) = tuple (xs.map (view w)) := by
  rw [view, viewItems_eq_map]

theorem view_map (es : Entries) :
    view w (map es) = map (w.entries (es.map fun e => (viewKey w e.1, view w e.2))) := by
  rw [view, viewEntries_eq_map]

theorem view_record (kind : RecordKind) (form : TextForm) (fs ns : Named) :
    view w (record kind form fs ns) = w.record kind form (fs.map fun f => (f.1, view w f.2)) ns := by
  rw [view, viewFields_eq_map]

end

/-- Octets as text if they read, else as they are. -/
def readOctets (holder : OctetHolder) (bs : List UInt8) : Value :=
  match Utf8.decode bs with
  | .ok s => text s
  | .error _ => octets holder bs

/-- A value with its octets read as text, in values and in keys. -/
def decoded (v : Value) : Value := v.view { octets := readOctets }

/-- A key with its octets read as text. -/
def decodedKey : Value → Value := viewKey { octets := readOctets }

/-- A value whose maps have each key once: of coinciding keys the last value counts, at the place of the first. -/
def condensed (v : Value) : Value := v.view { entries := Entries.ofList }

/-- A value whose records have a form of text. -/
def recast (form : TextForm) (v : Value) : Value :=
  v.view { record := fun kind _ fs ns => record kind form fs ns }

/-- A value whose records are as a reader makes them: with a form of text, their declared fields in order, and no
notes. -/
def fresh (form : TextForm) (v : Value) : Value :=
  v.view { record := fun kind _ fs _ => record kind form (kind.inOrder fs) [] }

/-- A view that leaves octets alone leaves keys alone. -/
theorem viewKey_of_octets (entries : Entries → Entries) (record : RecordKind → TextForm → Named → Named → Value)
    (k : Value) : viewKey ⟨octets, entries, record⟩ k = k := by
  cases k <;> rfl

@[simp] theorem decoded_list (xs : List Value) : decoded (list xs) = list (xs.map decoded) := view_list _ xs

@[simp] theorem decoded_tuple (xs : List Value) : decoded (tuple xs) = tuple (xs.map decoded) := view_tuple _ xs

@[simp] theorem decoded_map (es : Entries) :
    decoded (map es) = map (es.map fun e => (decodedKey e.1, decoded e.2)) := view_map _ es

@[simp] theorem decoded_record (kind : RecordKind) (form : TextForm) (fs ns : Named) :
    decoded (record kind form fs ns) = record kind form (fs.map fun f => (f.1, decoded f.2)) ns :=
  view_record _ kind form fs ns

@[simp] theorem condensed_list (xs : List Value) : condensed (list xs) = list (xs.map condensed) := view_list _ xs

@[simp] theorem condensed_tuple (xs : List Value) : condensed (tuple xs) = tuple (xs.map condensed) := view_tuple _ xs

@[simp] theorem condensed_map (es : Entries) :
    condensed (map es) = map (Entries.ofList (es.map fun e => (e.1, condensed e.2))) := by
  simp only [condensed, view_map, viewKey_of_octets]

@[simp] theorem condensed_record (kind : RecordKind) (form : TextForm) (fs ns : Named) :
    condensed (record kind form fs ns) = record kind form (fs.map fun f => (f.1, condensed f.2)) ns :=
  view_record _ kind form fs ns

@[simp] theorem recast_list (form : TextForm) (xs : List Value) :
    recast form (list xs) = list (xs.map (recast form)) := view_list _ xs

@[simp] theorem recast_tuple (form : TextForm) (xs : List Value) :
    recast form (tuple xs) = tuple (xs.map (recast form)) := view_tuple _ xs

@[simp] theorem recast_map (form : TextForm) (es : Entries) :
    recast form (map es) = map (es.map fun e => (e.1, recast form e.2)) := by
  simp only [recast, view_map, viewKey_of_octets]

@[simp] theorem recast_record (form form' : TextForm) (kind : RecordKind) (fs ns : Named) :
    recast form (record kind form' fs ns) = record kind form (fs.map fun f => (f.1, recast form f.2)) ns :=
  view_record _ kind form' fs ns

@[simp] theorem fresh_list (form : TextForm) (xs : List Value) : fresh form (list xs) = list (xs.map (fresh form)) :=
  view_list _ xs

@[simp] theorem fresh_map (form : TextForm) (es : Entries) :
    fresh form (map es) = map (es.map fun e => (e.1, fresh form e.2)) := by
  simp only [fresh, view_map, viewKey_of_octets]

@[simp] theorem fresh_record (form form' : TextForm) (kind : RecordKind) (fs ns : Named) :
    fresh form (record kind form' fs ns) = record kind form (kind.inOrder (fs.map fun f => (f.1, fresh form f.2))) [] :=
  view_record _ kind form' fs ns

theorem decoded_eq_null {v : Value} : v.decoded = null ↔ v = null := by
  cases v with
  | octets holder bs =>
      have hread : readOctets holder bs ≠ null := by
        rw [readOctets]
        split <;> simp
      simpa [decoded, view] using hread
  | _ => simp [decoded, view]

theorem recast_eq_null {form : TextForm} {v : Value} : v.recast form = null ↔ v = null := by
  cases v <;> simp [recast, view]

end Value
end DaemonClient
