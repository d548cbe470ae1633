import DaemonClient.Proofs.Variants

/-! Data may give each field under its wire name or under its attribute name (`check_respelled`). Giving a field under
its other name, in a record at any depth, makes no difference to the result of a check, and to its problems none but
this: those of what the key leads to have the new name of the key in their way. The effect of one respelling is told
exactly (`Moved`); of many it is the effect of one after the other. -/

namespace DaemonClient
open Outcome

/-! ### Problems with another way -/

/-- The same problem, seen from further outside. -/
def Problem.below (way : List Location) (p : Problem) : Problem := ⟨p.kind, way ++ p.path⟩

theorem Problem.map_below_below (ps : List Problem) (l : Location) (way : List Location) :
    (ps.map (Problem.below way)).map (Problem.below [l]) = ps.map (Problem.below (l :: way)) := by
  rw [List.map_map]
  rfl

theorem Check.under_error {α : Type} (l : Location) (ps : List Problem) :
    under l (.error ps : Check α) = .error (ps.map (.below [l])) := rfl

/-- Two outcomes of a check: the same result, which leaves no room for inner problems, or the same problems, but for
the ways to the inner ones. -/
inductive Moved {α : Type} (inner : List Problem) (p q : List Location) : Check α → Check α → Prop
  | ok (a : α) (none : inner = []) : Moved inner p q (.ok a) (.ok a)
  | error {ps qs : List Problem} (before after : List Problem) (hps : ps = before ++ inner.map (.below p) ++ after)
    (hqs : qs = before ++ inner.map (.below q) ++ after) : Moved inner p q (.error ps) (.error qs)

namespace Moved

variable {α β γ : Type} {inner : List Problem} {p q : List Location} {x y : Check α}

theorem refl (h : inner = []) (x : Check α) : Moved inner p q x x := by
  cases x with
  | ok a => exact ok a h
  | error ps => exact error ps [] (by simp [h]) (by simp [h])

/-- Another name for a key moves the problems of what the key leads to. -/
theorem renamed (x : Check α) (l l' : Location) : Moved x.problems [l] [l'] (Check.under l x) (Check.under l' x) := by
  cases x with
  | ok a => exact ok a rfl
  | error ps => exact error [] [] (List.append_nil _).symm (List.append_nil _).symm

theorem under (l : Location) (h : Moved inner p q x y) :
    Moved inner (l :: p) (l :: q) (Check.under l x) (Check.under l y) := by
  cases h with
  | ok a none => exact ok a none
  | error before after hps hqs =>
      rw [Check.under_error, Check.under_error]
      refine error (before.map (.below [l])) (after.map (.below [l])) ?_ ?_
      · rw [hps, List.map_append, List.map_append, Problem.map_below_below]
      · rw [hqs, List.map_append, List.map_append, Problem.map_below_below]

theorem map (f : α → β) (h : Moved inner p q x y) : Moved inner p q (f <$> x) (f <$> y) := by
  cases h with
  | ok a none => exact ok (f a) none
  | error before after hps hqs => exact error before after hps hqs

theorem both_left (f : α → β → γ) (h : Moved inner p q x y) (z : Check β) :
    Moved inner p q (Check.both f x z) (Check.both f y z) := by
  cases h with
  | ok a none => exact refl none _
  | error before after hps hqs =>
      exact error before (after ++ z.problems) (by simp [Check.problems, hps]) (by simp [Check.problems, hqs])

theorem both_right (f : β → α → γ) (h : Moved inner p q x y) (z : Check β) :
    Moved inner p q (Check.both f z x) (Check.both f z y) := by
  cases h with
  | ok a none => exact refl none _
  | error before after hps hqs =>
      cases z with
      | ok b => exact error before after hps hqs
      | error rs =>
          exact error (rs ++ before) after (by simp [Check.problems, hps]) (by simp [Check.problems, hqs])

end Moved

namespace Check

variable {inner : List Problem} {p q : List Location} {check : Value → Check Value} {v w : Value}

theorem items_moved (h : Moved inner p q (check v) (check w)) (before after : List Value) (i : Nat) :
    Moved inner (.index (i + before.length : Nat) :: p) (.index (i + before.length : Nat) :: q)
      (items check i (before ++ v :: after)) (items check i (before ++ w :: after)) := by
  induction before generalizing i with
  | nil => exact (h.under _).both_left _ _
  | cons x before ih =>
      have hindex : i + (x :: before).length = i + 1 + before.length := by rw [List.length_cons]; omega
      rw [hindex]
      exact (ih (i + 1)).both_right _ _

theorem entries_moved {form : TextForm} (h : Moved inner p q (check v) (check w)) (before after : Entries) (k : Value) :
    Moved inner (Location.ofKey k :: p) (Location.ofKey k :: q)
      (entries form check (before ++ (k, v) :: after)) (entries form check (before ++ (k, w) :: after)) := by
  induction before with
  | nil => exact ((h.under _).both_right _ _).both_left _ _
  | cons e before ih => exact ih.both_right _ _

end Check

namespace Shape

variable {form : TextForm} {kind : RecordKind} {fields : List (Slot × Shape)} {es es' : Entries}
  {inner : List Problem} {p q : List Location}

/-- Where only one field sees a difference, the check of the record differs as the check of that field does. -/
theorem checkFields_moved (hattrs : (fields.map (·.1.attr)).Nodup) {d : Slot × Shape} (hd : d ∈ fields)
    (hothers : ∀ d' ∈ fields, d' ≠ d → d'.1.find? es = d'.1.find? es')
    (h : Moved inner p q (checkField form es d) (checkField form es' d)) :
    Moved inner p q (checkFields form fields es) (checkFields form fields es') := by
  induction fields with
  | nil => cases hd
  | cons d' rest ih =>
      obtain ⟨hnew, hattrs'⟩ := List.nodup_cons.mp hattrs
      obtain ⟨hfirst, hothers'⟩ := List.forall_mem_cons.mp hothers
      rw [checkFields_cons, checkFields_cons]
      rcases List.mem_cons.mp hd with rfl | hd
      · have hrest : checkFields form rest es = checkFields form rest es' := checkFields_congr fun d' hd' =>
          checkField_congr (hothers' d' hd' fun heq => hnew (heq ▸ List.mem_map_of_mem hd'))
        rw [hrest]
        exact h.both_left _ _
      · rw [checkField_congr (hfirst fun heq => hnew (heq ▸ List.mem_map_of_mem hd))]
        exact (ih hattrs' hd hothers').both_right _ _

theorem check_record_moved (hattrs : (fields.map (·.1.attr)).Nodup) {d : Slot × Shape} (hd : d ∈ fields)
    (hothers : ∀ d' ∈ fields, d' ≠ d → d'.1.find? (es.filter kind.counts) = d'.1.find? (es'.filter kind.counts))
    (h : Moved inner p q (checkField form (es.filter kind.counts) d) (checkField form (es'.filter kind.counts) d)) :
    Moved inner p q (check form (.record kind fields) (.map es)) (check form (.record kind fields) (.map es')) := by
  rw [check_record_map, check_record_map]
  exact (checkFields_moved hattrs hd hothers h).map _

end Shape

/-! ### Respellings -/

/-- A field of a record that is given under another of its names: the way to the record, its kind, the field with both
names and what is given, and whether a check looks there at all. -/
structure Respelling where
  place : List Location
  kind : RecordKind
  field : Slot × Shape
  old : String
  new : String
  given : Value
  seen : Bool

namespace Respelling

/-- The same respelling, seen from further outside. -/
def within (c : Respelling) (l : Location) : Respelling := { c with place := l :: c.place }

/-- A respelling in what a check does not look at. -/
def unseen (c : Respelling) (l : Location) : Respelling := { c with place := l :: c.place, seen := false }

/-- The problems of what the key leads to. -/
def problems (form : TextForm) (c : Respelling) : List Problem :=
  if c.seen && c.kind.counts (.text c.old, c.given) then
    (Shape.check form c.field.2 (c.field.1.normalise c.given)).problems
  else []

end Respelling

/-- One key of a record, at any depth, is respelled from one name of its field to the other, in a record that has no
other entry under the new name. A record that is given one field under both its names looks at the wire name only. -/
inductive Respelled : Shape → Respelling → Value → Value → Prop
  | here {kind : RecordKind} {fields : List (Slot × Shape)} {d : Slot × Shape} (mem : d ∈ fields) {old new : String}
      (named : d.1.named old) (renamed : d.1.named new) (differ : old ≠ new) (before after : Entries)
      (alone : ∀ e ∈ before ++ after, e.1 ≠ .text new) (v : Value) :
    Respelled (.record kind fields) ⟨[], kind, d, old, new, v, true⟩ (.map (before ++ (.text old, v) :: after))
      (.map (before ++ (.text new, v) :: after))
  | member {kind : RecordKind} {fields : List (Slot × Shape)} {d : Slot × Shape} (mem : d ∈ fields) {name : String}
      (named : d.1.named name) (before after : Entries)
      (first : name = d.1.wire ∨ ∀ e ∈ before ++ after, kind.counts e = true → e.1 ≠ .text d.1.wire)
      {c : Respelling} {v w : Value} (inner : Respelled d.2 c v w) :
    Respelled (.record kind fields) (c.within (.name name)) (.map (before ++ (.text name, v) :: after))
      (.map (before ++ (.text name, w) :: after))
  | unseen {kind : RecordKind} {fields : List (Slot × Shape)} {d : Slot × Shape} (mem : d ∈ fields)
      (before after : Entries) {x : Value} (first : (.text d.1.wire, x) ∈ before ++ after)
      (counts : kind.counts (.text d.1.wire, x) = true) {c : Respelling} {v w : Value} (inner : Respelled d.2 c v w) :
    Respelled (.record kind fields) (c.unseen (.name d.1.attr)) (.map (before ++ (.text d.1.attr, v) :: after))
      (.map (before ++ (.text d.1.attr, w) :: after))
  | optional {s : Shape} {c : Respelling} {v w : Value} (inner : Respelled s c v w) : Respelled (.optional s) c v w
  | item {s : Shape} {row : List Value → Value} (hrow : row = .list ∨ row = .tuple) (before after : List Value)
      {c : Respelling} {v w : Value} (inner : Respelled s c v w) :
    Respelled (.list s) (c.within (.index before.length)) (row (before ++ v :: after)) (row (before ++ w :: after))
  | entry {s : Shape} (before after : Entries) (k : Value) {c : Respelling} {v w : Value} (inner : Respelled s c v w) :
    Respelled (.map s) (c.within (Location.ofKey k)) (.map (before ++ (k, v) :: after))
      (.map (before ++ (k, w) :: after))

/-! ### Keys after a respelling -/

namespace Entries

variable {before after : Entries} {k v : Value}

/-- Another value under one key leaves the keys as different as they were. -/
theorem distinct_middle (h : Distinct (before ++ (k, v) :: after)) (w : Value) : Distinct (before ++ (k, w) :: after) :=
  distinct_of_keys (by simp) h

theorem ne_of_distinct_middle {name : String} (h : Distinct (before ++ (.text name, v) :: after)) :
    ∀ e ∈ before ++ after, e.1 ≠ .text name := by
  obtain ⟨-, hafter, hbefore⟩ := List.pairwise_append.mp h
  intro e he hkey
  rcases List.mem_append.mp he with he | he
  · have hnew := hbefore e he _ List.mem_cons_self
    rw [hkey, Value.same_text, beq_self_eq_true] at hnew
    cases hnew
  · have hnew := (List.pairwise_cons.mp hafter).1 e he
    rw [hkey, Value.same_text, beq_self_eq_true] at hnew
    cases hnew

/-- A key may become any text that no other key is. -/
theorem distinct_respelled (h : Distinct (before ++ (k, v) :: after)) {new : String}
    (alone : ∀ e ∈ before ++ after, e.1 ≠ .text new) : Distinct (before ++ (.text new, v) :: after) := by
  obtain ⟨hbefore, hafter, hapart⟩ := List.pairwise_append.mp h
  refine List.pairwise_append.mpr ⟨hbefore, List.pairwise_cons.mpr ⟨fun e he => ?_, (List.pairwise_cons.mp hafter).2⟩,
    fun e he e' he' => ?_⟩
  · rw [Bool.eq_false_iff]
    exact fun hsame => alone e (List.mem_append_right _ he) (Value.same_text_right.mp hsame)
  · rcases List.mem_cons.mp he' with rfl | he'
    · rw [Bool.eq_false_iff]
      exact fun hsame => alone e (List.mem_append_left _ he) (Value.same_text_iff.mp hsame)
    · exact hapart e he e' (List.mem_cons_of_mem _ he')

end Entries

namespace Value

theorem keysOnce_row {row : List Value → Value} (hrow : row = list ∨ row = tuple) {before after : List Value}
    {v : Value} (h : (row (before ++ v :: after)).keysOnce = true) : v.keysOnce = true ∧
      ∀ {w : Value}, (v.keysOnce = true → w.keysOnce = true) → (row (before ++ w :: after)).keysOnce = true := by
  have hrow {xs : List Value} : (row xs).keysOnce = true ↔ ∀ x ∈ xs, x.keysOnce = true := by
    rcases hrow with rfl | rfl
    · exact every_list.trans (and_iff_right rfl)
    · exact every_tuple.trans (and_iff_right rfl)
  simp only [hrow, List.forall_mem_append, List.forall_mem_cons] at h ⊢
  exact ⟨h.2.1, fun hw => ⟨h.1, hw h.2.1, h.2.2⟩⟩

theorem keysOnce_entry {before after : Entries} {k v w : Value}
    (h : (map (before ++ (k, v) :: after)).keysOnce = true) (hw : v.keysOnce = true → w.keysOnce = true) :
    (map (before ++ (k, w) :: after)).keysOnce = true := by
  obtain ⟨hdistinct, hes⟩ := every_map.mp h
  rw [List.forall_mem_append, List.forall_mem_cons] at hes
  refine every_map.mpr ⟨decide_eq_true (Entries.distinct_middle (of_decide_eq_true hdistinct) w), ?_⟩
  rw [List.forall_mem_append, List.forall_mem_cons]
  exact ⟨hes.1, ⟨hes.2.1.1, hw hes.2.1.2⟩, hes.2.2⟩

end Value

namespace Respelled

variable {form : TextForm} {s : Shape} {c : Respelling} {v w : Value}

theorem ne_null (h : Respelled s c v w) : v ≠ .null ∧ w ≠ .null := by
  induction h with
  | optional _ ih => exact ih
  | item hrow _ _ _ _ => rcases hrow with rfl | rfl <;> exact ⟨Value.noConfusion, Value.noConfusion⟩
  | _ => exact ⟨Value.noConfusion, Value.noConfusion⟩

/-- Data that has each key once has each key once after a respelling. -/
theorem keysOnce (h : Respelled s c v w) (hv : v.keysOnce = true) : w.keysOnce = true := by
  induction h with
  | here mem named renamed differ before after alone v =>
      obtain ⟨hdistinct, hes⟩ := Value.every_map.mp hv
      refine Value.every_map.mpr ⟨decide_eq_true (Entries.distinct_respelled (of_decide_eq_true hdistinct) alone), ?_⟩
      rw [List.forall_mem_append, List.forall_mem_cons] at hes ⊢
      exact ⟨hes.1, ⟨rfl, hes.2.1.2⟩, hes.2.2⟩
  | member _ _ _ _ _ _ ih => exact Value.keysOnce_entry hv ih
  | unseen _ _ _ _ _ _ ih => exact Value.keysOnce_entry hv ih
  | optional _ ih => exact ih hv
  | item hrow _ _ _ ih => exact (Value.keysOnce_row hrow hv).2 ih
  | entry _ _ _ _ ih => exact Value.keysOnce_entry hv ih

end Respelled

/-! ### Checks before and after -/

/-- A field takes what is given under its wire name, and what is given under its attribute name only without that. -/
theorem Slot.find?_of_mem {slot : Slot} {es : Entries} (hes : es.Distinct) {name : String} {v : Value}
    (hv : (.text name, v) ∈ es) (hname : slot.named name)
    (first : name = slot.wire ∨ ∀ e ∈ es, e.1 ≠ .text slot.wire) : slot.find? es = some (name, v) := by
  rw [find?]
  rcases first with rfl | first
  · rw [Entries.getText?_of_mem hes hv]
  · obtain rfl : name = slot.attr := hname.resolve_left fun hwire => first _ hv (hwire ▸ rfl)
    rw [Entries.getText?_eq_none first, Entries.getText?_of_mem hes hv]
    rfl

/-- A field is given under one of its names if nothing is given under the other. -/
theorem Slot.find?_of_alone {slot : Slot} {es : Entries} (hes : es.Distinct) {name other : String} {v : Value}
    (hv : (.text name, v) ∈ es) (hname : slot.named name) (hother : slot.named other) (differ : name ≠ other)
    (alone : ∀ e ∈ es, e.1 ≠ .text other) : slot.find? es = some (name, v) := by
  refine find?_of_mem hes hv hname ?_
  rcases hname with hwire | hattr
  · exact .inl hwire
  · have hwire : other = slot.wire := hother.resolve_right fun h => differ (hattr.trans h.symm)
    exact .inr (hwire ▸ alone)

namespace Shape

variable {form : TextForm} {kind : RecordKind} {fields : List (Slot × Shape)} {d : Slot × Shape}
  {before after : Entries} {v w : Value}

/-- Fields other than the one that is given do not see under which of its names, nor what is given. -/
theorem find?_other (hnames : namesSound fields) (hd : d ∈ fields) {d' : Slot × Shape} (hd' : d' ∈ fields)
    (hne : d' ≠ d) {old new : String} (named : d.1.named old) (renamed : d.1.named new) (v w : Value) :
    d'.1.find? (before ++ (.text old, v) :: after) = d'.1.find? (before ++ (.text new, w) :: after) := by
  refine Slot.find?_congr fun name hname => ?_
  have hother {name' : String} (hname' : d.1.named name') : name ≠ name' := by
    rintro rfl
    exact hne (eq_of_named hnames hd hd' hname' hname)
  rw [Entries.getText?_middle_of_ne (hother named), Entries.getText?_middle_of_ne (hother renamed)]

end Shape

namespace Respelled

variable {form : TextForm} {kind : RecordKind} {fields : List (Slot × Shape)} {d : Slot × Shape}
  {before after : Entries} {v w : Value}

/-- A key of the record itself is respelled. -/
theorem moved_here (hnames : Shape.namesSound fields) (mem : d ∈ fields) {old new : String} (named : d.1.named old)
    (renamed : d.1.named new) (differ : old ≠ new) (alone : ∀ e ∈ before ++ after, e.1 ≠ .text new)
    (hes : Entries.Distinct (before ++ (.text old, v) :: after)) :
    Moved (Respelling.problems form ⟨[], kind, d, old, new, v, true⟩) [.name old] [.name new]
      (Shape.check form (.record kind fields) (.map (before ++ (.text old, v) :: after)))
      (Shape.check form (.record kind fields) (.map (before ++ (.text new, v) :: after))) := by
  have hsame : kind.counts (.text new, v) = kind.counts (.text old, v) := rfl
  rw [Respelling.problems, Bool.true_and]
  split
  · rename_i hcounts
    have hold := Entries.ne_of_distinct_middle hes
    have hfind {name other : String} (hname : d.1.named name) (hother : d.1.named other) (hne : name ≠ other)
        (hdistinct : Entries.Distinct (before ++ (.text name, v) :: after))
        (hcounts : kind.counts (.text name, v) = true) (halone : ∀ e ∈ before ++ after, e.1 ≠ .text other) :
        d.1.find? ((before ++ (.text name, v) :: after).filter kind.counts) = some (name, v) := by
      refine Slot.find?_of_alone (hdistinct.sublist List.filter_sublist) (List.mem_filter.mpr ⟨by simp, hcounts⟩) hname
        hother hne fun e he => ?_
      rcases List.mem_append.mp (List.mem_of_mem_filter he) with he | he
      · exact halone e (List.mem_append_left _ he)
      · rcases List.mem_cons.mp he with rfl | he
        · simpa using hne
        · exact halone e (List.mem_append_right _ he)
    refine Shape.check_record_moved hnames.1 mem (fun d' hd' hne => ?_) ?_
    · simp only [List.filter_append, List.filter_cons_of_pos hcounts, List.filter_cons_of_pos (hsame.trans hcounts)]
      exact Shape.find?_other hnames mem hd' hne named renamed v v
    · rw [Shape.checkField_of_find? (hfind named renamed differ hes hcounts alone),
        Shape.checkField_of_find? (hfind renamed named differ.symm (Entries.distinct_respelled hes alone)
          (hsame.trans hcounts) hold)]
      exact .renamed _ _ _
  · -- a null member that a report drops is dropped under either name
    rename_i hcounts
    have hcounts' : ¬kind.counts (.text new, v) = true := hcounts
    rw [Shape.check_record_map, Shape.check_record_map, List.filter_append, List.filter_append,
      List.filter_cons_of_neg hcounts, List.filter_cons_of_neg hcounts']
    exact .refl rfl _

/-- What the record is given for a field moves, and the record looks there. -/
theorem moved_member (hnames : Shape.namesSound fields) (mem : d ∈ fields) {name : String} (named : d.1.named name)
    (first : name = d.1.wire ∨ ∀ e ∈ before ++ after, kind.counts e = true → e.1 ≠ .text d.1.wire)
    (hes : Entries.Distinct (before ++ (.text name, v) :: after)) (hv : v ≠ .null) (hw : w ≠ .null)
    {inner : List Problem} {p q : List Location}
    (h : Moved inner p q (Shape.check form d.2 (d.1.normalise v)) (Shape.check form d.2 (d.1.normalise w))) :
    Moved inner (.name name :: p) (.name name :: q)
      (Shape.check form (.record kind fields) (.map (before ++ (.text name, v) :: after)))
      (Shape.check form (.record kind fields) (.map (before ++ (.text name, w) :: after))) := by
  have hfind {x : Value} (hx : x ≠ .null) (hdistinct : Entries.Distinct (before ++ (.text name, x) :: after)) :
      d.1.find? ((before ++ (.text name, x) :: after).filter kind.counts) = some (name, x) := by
    refine Slot.find?_of_mem (hdistinct.sublist List.filter_sublist)
      (List.mem_filter.mpr ⟨by simp, kind.counts_of_ne_null hx⟩) named ?_
    by_cases hwire : name = d.1.wire
    · exact .inl hwire
    · refine .inr fun e he => ?_
      obtain ⟨he, hcounts⟩ := List.mem_filter.mp he
      rcases List.mem_append.mp he with he | he
      · exact first.resolve_left hwire e (List.mem_append_left _ he) hcounts
      · rcases List.mem_cons.mp he with rfl | he
        · simpa using hwire
        · exact first.resolve_left hwire e (List.mem_append_right _ he) hcounts
  refine Shape.check_record_moved hnames.1 mem (fun d' hd' hne => ?_) ?_
  · simp only [List.filter_append, List.filter_cons_of_pos (kind.counts_of_ne_null hv),
      List.filter_cons_of_pos (kind.counts_of_ne_null hw)]
    exact Shape.find?_other hnames mem hd' hne named named v w
  · rw [Shape.checkField_of_find? (hfind hv hes), Shape.checkField_of_find? (hfind hw (Entries.distinct_middle hes w))]
    exact h.under _

/-- A record does not look at what it is given under an attribute name where it is given the wire name too. -/
theorem check_unseen (hnames : Shape.namesSound fields) (mem : d ∈ fields) {x : Value}
    (first : (.text d.1.wire, x) ∈ before ++ after) (counts : kind.counts (.text d.1.wire, x) = true)
    (hes : Entries.Distinct (before ++ (.text d.1.attr, v) :: after)) (hv : v ≠ .null) (hw : w ≠ .null) :
    Shape.check form (.record kind fields) (.map (before ++ (.text d.1.attr, v) :: after)) =
      Shape.check form (.record kind fields) (.map (before ++ (.text d.1.attr, w) :: after)) := by
  have hfind {y : Value} (hdistinct : Entries.Distinct (before ++ (.text d.1.attr, y) :: after)) :
      d.1.find? ((before ++ (.text d.1.attr, y) :: after).filter kind.counts) = some (d.1.wire, x) := by
    have hmem : (.text d.1.wire, x) ∈ before ++ (.text d.1.attr, y) :: after := by
      rw [List.mem_append, List.mem_cons]
      exact (List.mem_append.mp first).imp_right .inr
    exact Slot.find?_of_mem (hdistinct.sublist List.filter_sublist) (List.mem_filter.mpr ⟨hmem, counts⟩) (.inl rfl)
      (.inl rfl)
  refine Shape.check_record_congr fun d' hd' => Shape.checkField_congr ?_
  by_cases heq : d' = d
  · rw [heq, hfind hes, hfind (Entries.distinct_middle hes w)]
  · simp only [List.filter_append, List.filter_cons_of_pos (kind.counts_of_ne_null hv),
      List.filter_cons_of_pos (kind.counts_of_ne_null hw)]
    exact Shape.find?_other hnames mem hd' heq (.inr rfl) (.inr rfl) v w

variable {s : Shape} {c : Respelling}

/-- **A respelling makes no difference to a check**, except that the problems of what the key leads to have the new
name of the key in their way. -/
theorem moved (form : TextForm) (hs : s.sound = true) (hv : v.keysOnce = true) (h : Respelled s c v w) :
    Moved (c.problems form) (c.place ++ [.name c.old]) (c.place ++ [.name c.new]) (Shape.check form s v)
      (Shape.check form s w) := by
  have hw := h.keysOnce hv
  induction h with
  | @here kind fields d mem old new named renamed differ before after alone v =>
      exact moved_here (Shape.sound_record.mp hs).1 mem named renamed differ alone
        (of_decide_eq_true (Value.every_map.mp hv).1)
  | @member kind fields d mem name named before after first c v w inner ih =>
      obtain ⟨hnames, -, hslots⟩ := Shape.sound_record.mp hs
      have hvonce := Immaterial.keysOnce_middle hv
      have hwonce := Immaterial.keysOnce_middle hw
      obtain ⟨hvnull, hwnull⟩ := inner.ne_null
      refine moved_member hnames mem named first (of_decide_eq_true (Value.every_map.mp hv).1) hvnull hwnull ?_
      rw [Value.normalise_of_keysOnce d.1 hvonce hvnull, Value.normalise_of_keysOnce d.1 hwonce hwnull]
      exact ih (hslots d mem).2 hvonce hwonce
  | @unseen kind fields d mem before after x first counts c v w inner ih =>
      -- the wire name is given too and goes first, so the record is blind to the change
      obtain ⟨hvnull, hwnull⟩ := inner.ne_null
      rw [check_unseen (Shape.sound_record.mp hs).1 mem first counts (of_decide_eq_true (Value.every_map.mp hv).1) hvnull
        hwnull]
      exact .refl rfl _
  | optional inner ih =>
      rw [Shape.check_optional inner.ne_null.1, Shape.check_optional inner.ne_null.2]
      exact ih hs hv hw
  | item hrow before after inner ih =>
      have hmoved := Check.items_moved (ih hs (Value.keysOnce_row hrow hv).1 (Value.keysOnce_row hrow hw).1) before after 0
      rw [Nat.zero_add] at hmoved
      rcases hrow with rfl | rfl <;> exact hmoved.map _
  | entry before after k inner ih =>
      exact (Check.entries_moved (ih hs (Immaterial.keysOnce_middle hv) (Immaterial.keysOnce_middle hw)) before after
        k).map _

end Respelled

/-! ### Any number of respellings -/

/-- Data after respellings, one after the other. -/
inductive Respellings (s : Shape) : List Respelling → Value → Value → Prop
  | none (v : Value) : Respellings s [] v v
  | next {c : Respelling} {cs : List Respelling} {v w u : Value} (first : Respelled s c v w)
      (rest : Respellings s cs w u) : Respellings s (c :: cs) v u

/-- Problems after respellings: each time those of what the key leads to move with the key, and all others stay. -/
inductive MovedAlong (form : TextForm) : List Respelling → List Problem → List Problem → Prop
  | none (ps : List Problem) : MovedAlong form [] ps ps
  | next {c : Respelling} {cs : List Respelling} {ps ps' qs : List Problem} (before after : List Problem)
      (hps : ps = before ++ (c.problems form).map (.below (c.place ++ [.name c.old])) ++ after)
      (hps' : ps' = before ++ (c.problems form).map (.below (c.place ++ [.name c.new])) ++ after)
      (rest : MovedAlong form cs ps' qs) : MovedAlong form (c :: cs) ps qs

/-- Problems that have moved are of the same kinds in the same order. -/
theorem MovedAlong.kinds {form : TextForm} {cs : List Respelling} {ps qs : List Problem}
    (h : MovedAlong form cs ps qs) : ps.map (·.kind) = qs.map (·.kind) := by
  induction h with
  | none ps => rfl
  | next before after hps hps' _ ih =>
      have hkinds (inner : List Problem) (way : List Location) :
          (inner.map (Problem.below way)).map (·.kind) = inner.map (·.kind) := by
        rw [List.map_map]
        rfl
      rw [← ih, hps, hps']
      simp only [List.map_append, hkinds]

namespace RecordKind

/-- **Wire names and attribute names are interchangeable.** Data in which any number of fields are given under their
other names, in records at any depth, makes the same record or has problems of the same kinds in the same order; and
the ways to the problems differ by those names only. -/
theorem check_respelled {kind : RecordKind} {form : TextForm} {cs : List Respelling} {v w : Value}
    (hv : v.keysOnce = true) (h : Respellings kind.shape cs v w) :
    (∃ r, kind.check form v = .ok r ∧ kind.check form w = .ok r) ∨
    ∃ ps qs, kind.check form v = .error ps ∧ kind.check form w = .error qs ∧
      MovedAlong (kind.formOf form) cs ps qs ∧ ps.map (·.kind) = qs.map (·.kind) := by
  -- by induction on the chain: what the rest starts from is the outcome that the first respelling leaves
  have hchain : (∃ r, kind.check form v = .ok r ∧ kind.check form w = .ok r) ∨
      ∃ ps qs, kind.check form v = .error ps ∧ kind.check form w = .error qs ∧
        MovedAlong (kind.formOf form) cs ps qs := by
    induction h with
    | none v =>
        cases hcheck : kind.check form v with
        | ok r => exact .inl ⟨r, rfl, rfl⟩
        | error ps => exact .inr ⟨ps, ps, rfl, rfl, .none ps⟩
    | @next c cs v w u first rest ih =>
        have hmoved := first.moved (kind.formOf form) kind.sound_shape hv
        have ih := ih (first.keysOnce hv)
        rw [check, check] at ih ⊢
        generalize Shape.check (kind.formOf form) kind.shape v = x at hmoved ih ⊢
        generalize Shape.check (kind.formOf form) kind.shape w = y at hmoved ih ⊢
        cases hmoved with
        | ok r _ =>
            obtain ⟨r', hr', hu⟩ | ⟨ps, _, hps, -⟩ := ih
            · exact .inl ⟨r', hr', hu⟩
            · cases hps
        | error before after hps hps' =>
            obtain ⟨r', hr', -⟩ | ⟨ps, qs, hy, hu, hrest⟩ := ih
            · cases hr'
            · cases hy
              exact .inr ⟨_, qs, rfl, hu, .next before after hps hps' hrest⟩
  refine hchain.imp_right ?_
  rintro ⟨ps, qs, hps, hqs, hmoved⟩
  exact ⟨ps, qs, hps, hqs, hmoved, hmoved.kinds⟩

/-- Options with a name and a subnet that are no text, and two fields under names left open. -/
def misfitOptions (ipam subnet : String) : Value :=
  .map [(.text "Name", .int 1), (.text ipam, .map [(.text "Config", .list [.null, .map [(.text subnet, .int 5)]])])]

/-- The ways, old names and new names of some respellings. -/
def names (cs : List Respelling) : List (List Location × String × String) := cs.map fun c => (c.place, c.old, c.new)

theorem respellings_misfitOptions : ∃ cs,
    Respellings createOptions.shape cs (misfitOptions "IPAM" "Subnet") (misfitOptions "ipam" "subnet") ∧
      names cs = [([], "IPAM", "ipam"), ([.name "ipam", .name "Config", .index 1], "Subnet", "subnet")] := by
  have hipam : Shape.partField "ipam" "IPAM" Shape.addressSettings ∈ createOptions.fields := by
    simp [fields, shape, Shape.createOptions]
  have hconfig : (⟨"config", "Config", some ⟨.list [], true⟩, true⟩, .list Shape.subnetSettings) ∈
      addressSettings.fields := by
    simp [fields, shape, Shape.addressSettings]
  have hsubnet : Shape.optionalField "subnet" "Subnet" .text ∈ subnetSettings.fields := by
    simp [fields, shape, Shape.subnetSettings]
  obtain ⟨c, hfirst, hc⟩ : ∃ c, Respelled createOptions.shape c (misfitOptions "IPAM" "Subnet")
      (misfitOptions "ipam" "Subnet") ∧ names [c] = [([], "IPAM", "ipam")] :=
    ⟨_, .here hipam (.inl rfl) (.inr rfl) (by decide) [(.text "Name", .int 1)] [] (by simp [Shape.partField]) _, rfl⟩
  obtain ⟨c', hsecond, hc'⟩ : ∃ c, Respelled createOptions.shape c (misfitOptions "ipam" "Subnet")
      (misfitOptions "ipam" "subnet") ∧
        names [c] = [([.name "ipam", .name "Config", .index 1], "Subnet", "subnet")] :=
    ⟨_, .member hipam (.inr rfl) [(.text "Name", .int 1)] [] (.inr (by simp [Shape.partField]))
      (.member hconfig (.inl rfl) [] [] (.inl rfl) (.item (.inl rfl) [.null] []
        (.here hsubnet (.inl rfl) (.inr rfl) (by decide) [] [] (by simp) (.int 5)))), rfl⟩
  exact ⟨[c, c'], .next hfirst (.next hsecond (.none _)), congrArg₂ List.append hc hc'⟩

theorem check_respelled_misfitOptions :
    (misfitOptions "IPAM" "Subnet").keysOnce = true ∧
    ∃ cs, Respellings createOptions.shape cs (misfitOptions "IPAM" "Subnet") (misfitOptions "ipam" "subnet") ∧
      ∃ ps qs, createOptions.check .characters (misfitOptions "IPAM" "Subnet") = .error ps ∧
        createOptions.check .characters (misfitOptions "ipam" "subnet") = .error qs ∧
        MovedAlong .characters cs ps qs ∧
        qs = [⟨.notText, [.name "Name"]⟩, ⟨.notRecord, [.name "ipam", .name "Config", .index 0]⟩,
          ⟨.notText, [.name "ipam", .name "Config", .index 1, .name "subnet"]⟩] := by
  have hv : (misfitOptions "IPAM" "Subnet").keysOnce = true := by decide
  obtain ⟨cs, hcs, -⟩ := respellings_misfitOptions
  rcases @check_respelled createOptions .characters cs _ _ hv hcs with ⟨r, hr, -⟩ | ⟨ps, qs, hps, hqs, hmoved, -⟩
  · cases hr
  · exact ⟨hv, cs, hcs, ps, qs, hps, hqs, hmoved, (Except.error.inj hqs).symm⟩

end RecordKind

end DaemonClient
