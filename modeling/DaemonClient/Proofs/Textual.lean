import DaemonClient.Json.Encoding
import DaemonClient.Proofs.JsonText
import DaemonClient.Proofs.Utf8
import Mathlib.Data.List.Forall2

/-! The textual view of values and the documents that come of it. A view that exists holds no map with two equal keys
(`merged_of_textual`), so it is a document as it stands: what JSON makes of it is the same value again
(`toValue_of_toJson`), and that is also what its text reads back as (`parse_of_dump`). -/

namespace DaemonClient
open Outcome

namespace Value

/-- Induction over values: what holds of all parts of a value holds of it. -/
@[elab_as_elim, induction_eliminator]
theorem induct {P : Value → Prop} (null : P .null) (bool : ∀ b, P (.bool b)) (int : ∀ n, P (.int n))
    (float : ∀ x, P (.float x)) (text : ∀ s, P (.text s)) (octets : ∀ h bs, P (.octets h bs))
    (list : ∀ xs, (∀ x ∈ xs, P x) → P (.list xs)) (tuple : ∀ xs, (∀ x ∈ xs, P x) → P (.tuple xs))
    (map : ∀ es, (∀ e ∈ es, P e.1 ∧ P e.2) → P (.map es))
    (record : ∀ kind form fs ns, (∀ f ∈ fs, P f.2) → P (.record kind form fs ns)) (foreign : ∀ n, P (.foreign n))
    (v : Value) : P v :=
  @Value.rec P (fun xs => ∀ x ∈ xs, P x) (fun es => ∀ e ∈ es, P e.1 ∧ P e.2) (fun fs => ∀ f ∈ fs, P f.2)
    (fun e => P e.1 ∧ P e.2) (fun f => P f.2) null bool int float text octets list tuple map
    (fun kind form fs ns hfs _ => record kind form fs ns hfs) foreign
    (fun _ h => absurd h List.not_mem_nil) (fun _ _ hx hxs => List.forall_mem_cons.mpr ⟨hx, hxs⟩)
    (fun _ h => absurd h List.not_mem_nil) (fun _ _ he hes => List.forall_mem_cons.mpr ⟨he, hes⟩)
    (fun _ h => absurd h List.not_mem_nil) (fun _ _ hf hfs => List.forall_mem_cons.mpr ⟨hf, hfs⟩)
    (fun _ _ hk hv => ⟨hk, hv⟩) (fun _ _ hv => hv) v

@[simp] theorem same_text (s t : String) : same (.text s) (.text t) = (s == t) := by simp [same]

theorem same_text_iff {s : String} {v : Value} : same (.text s) v = true ↔ v = .text s := by
  cases v with
  | text t => rw [same_text, beq_iff_eq, text.injEq, eq_comm]
  | _ => simp [same]

theorem same_text_right {s : String} {v : Value} : v.same (.text s) = true ↔ v = .text s := by
  cases v with
  | text t => rw [same_text, beq_iff_eq, text.injEq]
  | _ => simp [same, sameNumber, toInt?]

end Value

namespace Entries

/-- No key equals one before it. -/
def Distinct (es : Entries) : Prop := es.Pairwise fun a b => b.1.same a.1 = false

instance (es : Entries) : Decidable es.Distinct := inferInstanceAs (Decidable (es.Pairwise _))

theorem insert_of_new {es : Entries} {k v : Value} (h : ∀ e ∈ es, k.same e.1 = false) :
    insert es k v = es ++ [(k, v)] := by
  induction es with
  | nil => rfl
  | cons e es ih =>
      obtain ⟨he, hes⟩ := List.forall_mem_cons.mp h
      rw [insert, if_neg (by simpa using he), ih hes, List.cons_append]

theorem foldl_insert_of_distinct (done es : Entries) (h : Distinct (done ++ es)) :
    es.foldl (fun es e => insert es e.1 e.2) done = done ++ es := by
  induction es generalizing done with
  | nil => simp
  | cons e es ih =>
      have hnew : ∀ d ∈ done, e.1.same d.1 = false :=
        fun d hd => (List.pairwise_append.mp h).2.2 d hd e List.mem_cons_self
      rw [List.foldl_cons, insert_of_new hnew, ih _ (by simpa using h)]
      simp

/-- Entries with distinct keys are a map as they are. -/
theorem ofList_of_distinct {es : Entries} (h : es.Distinct) : ofList es = es :=
  foldl_insert_of_distinct [] es h

theorem distinct_iff_keys {es : Entries} : es.Distinct ↔ (es.map (·.1)).Pairwise fun a b => b.same a = false := by
  rw [Distinct, List.pairwise_map]

theorem distinct_of_keys {es es' : Entries} (h : es.map (·.1) = es'.map (·.1)) (hes : es.Distinct) :
    es'.Distinct := by
  rw [distinct_iff_keys] at hes ⊢
  rwa [← h]

theorem get?_eq_none {es : Entries} {k : Value} (h : ∀ e ∈ es, k.same e.1 = false) : es.get? k = none := by
  rw [get?, Option.map_eq_none_iff, List.find?_eq_none]
  exact fun e he => by simp [h e he]

theorem getText?_eq_none {es : Entries} {name : String} (h : ∀ e ∈ es, e.1 ≠ .text name) :
    es.getText? name = none := by
  apply get?_eq_none
  intro e he
  rw [Bool.eq_false_iff]
  exact fun hsame => h e (List.mem_reverse.mp he) (Value.same_text_iff.mp hsame)

/-- A text key of a map with distinct keys leads to its value. -/
theorem getText?_of_mem {es : Entries} (hes : es.Distinct) {name : String} {v : Value} (h : (.text name, v) ∈ es) :
    es.getText? name = some v := by
  obtain ⟨before, after, rfl⟩ := List.append_of_mem h
  have hafter : ∀ e ∈ after, e.1.same (.text name) = false :=
    fun e he => (List.pairwise_cons.mp (List.pairwise_append.mp hes).2.1).1 e he
  have hnone : (after.reverse.find? fun e => Value.same (.text name) e.1) = none := by
    rw [List.find?_eq_none]
    intro e he hsame
    have hnew := hafter e (List.mem_reverse.mp he)
    rw [Value.same_text_iff.mp hsame, Value.same_text, beq_self_eq_true] at hnew
    cases hnew
  rw [getText?, get?, List.reverse_append, List.reverse_cons, List.append_assoc, List.find?_append, hnone]
  simp

end Entries

namespace Value

/-! ### Views -/

theorem textualItems_eq_ok {xs ys : List Value} :
    textualItems xs = .ok ys ↔ List.Forall₂ (fun x y => textual x = .ok y) xs ys := by
  induction xs generalizing ys with
  | nil => simp [textualItems, eq_comm]
  | cons x xs ih =>
      simp only [textualItems, bind_eq_ok, ih, List.forall₂_cons_left_iff]
      constructor
      · rintro ⟨y, hy, ys', hys, h⟩
        exact ⟨y, ys', hy, hys, (Except.ok.inj h).symm⟩
      · rintro ⟨y, ys', hy, hys, rfl⟩
        exact ⟨y, hy, ys', hys, rfl⟩

theorem newKey_eq_ok {done : Entries} {k : Value} :
    newKey done k = .ok () ↔ k.unhashable? = none ∧ ∀ e ∈ done, k.same e.1 = false := by
  rw [newKey]
  cases k.unhashable? with
  | some t => simp
  | none =>
      simp only [true_and, Entries.get?, Option.isSome_map, List.find?_isSome]
      split
      · rename_i h
        obtain ⟨e, he, hk⟩ := h
        simp only [reduceCtorEq, false_iff, not_forall]
        exact ⟨e, he, by simp [hk]⟩
      · rename_i h
        simp only [true_iff]
        exact fun e he => Bool.eq_false_iff.mpr fun hk => h ⟨e, he, hk⟩

theorem textualEntries_eq_ok {done es out : Entries} (h : textualEntries done es = .ok out) (hdone : done.Distinct) :
    ∃ new, out = done ++ new ∧ out.Distinct ∧
      List.Forall₂ (fun e n => textual e.1 = .ok n.1 ∧ textual e.2 = .ok n.2) es new := by
  induction es generalizing done with
  | nil =>
      obtain rfl := Except.ok.inj h
      exact ⟨[], by simp, hdone, .nil⟩
  | cons e es ih =>
      obtain ⟨k, v⟩ := e
      simp only [textualEntries, bind_eq_ok] at h
      obtain ⟨k', hk, ⟨⟩, hnew, v', hv, hrest⟩ := h
      have hdone' : Entries.Distinct (done ++ [(k', v')]) :=
        List.pairwise_append.mpr ⟨hdone, List.pairwise_singleton _ _, by simpa using (newKey_eq_ok.mp hnew).2⟩
      obtain ⟨new, hout, hdistinct, hall⟩ := ih hrest hdone'
      exact ⟨(k', v') :: new, by simpa using hout, hdistinct, .cons ⟨hk, hv⟩ hall⟩

theorem textual_list_eq_ok {xs : List Value} {t : Value} :
    textual (.list xs) = .ok t ↔ ∃ ys, t = .list ys ∧ List.Forall₂ (fun x y => textual x = .ok y) xs ys := by
  simp only [textual, map_eq_ok, textualItems_eq_ok]
  exact ⟨fun ⟨ys, hys, h⟩ => ⟨ys, h.symm, hys⟩, fun ⟨ys, h, hys⟩ => ⟨ys, hys, h.symm⟩⟩

theorem textual_tuple_eq_ok {xs : List Value} {t : Value} :
    textual (.tuple xs) = .ok t ↔ ∃ ys, t = .list ys ∧ List.Forall₂ (fun x y => textual x = .ok y) xs ys := by
  rw [← textual_list_eq_ok, textual, textual]

theorem textual_map_eq_ok {es : Entries} {t : Value} (h : textual (.map es) = .ok t) :
    ∃ new : Entries, t = .map new ∧ new.Distinct ∧
      List.Forall₂ (fun e n => textual e.1 = .ok n.1 ∧ textual e.2 = .ok n.2) es new := by
  rw [textual, map_eq_ok] at h
  obtain ⟨out, hout, rfl⟩ := h
  obtain ⟨new, hnew, hdistinct, hall⟩ := textualEntries_eq_ok hout List.Pairwise.nil
  rw [List.nil_append] at hnew
  exact ⟨new, by rw [hnew], hnew ▸ hdistinct, hall⟩

theorem decodeText_eq_ok {bs : List UInt8} {s : String} : decodeText bs = .ok s ↔ bs = Utf8.encode s := by
  rw [← Utf8.decode_eq_ok, decodeText, mapError_eq_ok]

@[simp] theorem decodeText_encode (s : String) : decodeText (Utf8.encode s) = .ok s := decodeText_eq_ok.mpr rfl

theorem textual_octets_eq_ok {h : OctetHolder} {bs : List UInt8} {t : Value} :
    textual (.octets h bs) = .ok t ↔ ∃ s, t = .text s ∧ bs = Utf8.encode s := by
  simp only [textual, map_eq_ok, decodeText_eq_ok]
  exact ⟨fun ⟨s, hs, h⟩ => ⟨s, h.symm, hs⟩, fun ⟨s, h, hs⟩ => ⟨s, hs, h.symm⟩⟩

/-- A value with nothing in it to read: no octets, no items and no entries. A record is one. -/
def isLeaf : Value → Bool
  | octets _ _ => false
  | list _ => false
  | tuple _ => false
  | map _ => false
  | _ => true

/-- Induction over values beside their views: what holds of the parts of both side by side holds of both. -/
theorem textual_induct {P : Value → Value → Prop} (leaf : ∀ {v}, v.isLeaf = true → P v v)
    (octets : ∀ holder s, P (.octets holder (Utf8.encode s)) (.text s))
    (items : ∀ {xs ys}, List.Forall₂ P xs ys → P (.list xs) (.list ys) ∧ P (.tuple xs) (.list ys))
    (map : ∀ {es new : Entries}, new.Distinct → List.Forall₂ (fun e n => P e.1 n.1 ∧ P e.2 n.2) es new →
      P (.map es) (.map new))
    {v t : Value} (h : textual v = .ok t) : P v t := by
  have hparts {xs ys : List Value} (ih : ∀ x ∈ xs, ∀ y, textual x = .ok y → P x y)
      (hys : List.Forall₂ (fun x y => textual x = .ok y) xs ys) : List.Forall₂ P xs ys :=
    ((List.forall₂_and_left _ _).mpr ⟨ih, hys⟩).imp fun _ y hx => hx.1 y hx.2
  induction v generalizing t with
  | octets holder bs =>
      obtain ⟨s, rfl, rfl⟩ := textual_octets_eq_ok.mp h
      exact octets holder s
  | list xs ih =>
      obtain ⟨ys, rfl, hys⟩ := textual_list_eq_ok.mp h
      exact (items (hparts (fun x hx _ => ih x hx) hys)).1
  | tuple xs ih =>
      obtain ⟨ys, rfl, hys⟩ := textual_tuple_eq_ok.mp h
      exact (items (hparts (fun x hx _ => ih x hx) hys)).2
  | map es ih =>
      obtain ⟨new, rfl, hdistinct, hnew⟩ := textual_map_eq_ok h
      refine map hdistinct (((List.forall₂_and_left _ _).mpr ⟨fun e he => he, hnew⟩).imp ?_)
      rintro e n ⟨he, hkey, hvalue⟩
      exact ⟨(ih e he).1 hkey, (ih e he).2 hvalue⟩
  | _ =>
      obtain rfl := Except.ok.inj h
      exact leaf rfl

/-! ### Views have each key once -/

theorem mergedItems_eq_map (xs : List Value) : mergedItems xs = xs.map merged := by
  induction xs with
  | nil => rfl
  | cons x xs ih => rw [mergedItems, ih, List.map_cons]

theorem mergedEntries_eq_map (es : Entries) : mergedEntries es = es.map fun e => (e.1, e.2.merged) := by
  induction es with
  | nil => rfl
  | cons e es ih => rw [mergedEntries, ih, List.map_cons]

mutual

/-- A value that stands for a document: no floats, maps with text keys, and at most so many lists and maps inside one
another. -/
def isDocument : Nat → Value → Bool
  | _, null => true
  | _, bool _ => true
  | _, int _ => true
  | _, text _ => true
  | depth + 1, list xs => itemsAreDocuments depth xs
  | depth + 1, map es => entriesAreDocuments depth es
  | _, _ => false

/-- Items that stand for documents. -/
def itemsAreDocuments (depth : Nat) : List Value → Bool
  | [] => true
  | x :: xs => isDocument depth x && itemsAreDocuments depth xs

/-- Entries with text keys whose values stand for documents. -/
def entriesAreDocuments (depth : Nat) : List (Value × Value) → Bool
  | [] => true
  | (text _, v) :: es => isDocument depth v && entriesAreDocuments depth es
  | _ => false

end

theorem itemsAreDocuments_iff {depth : Nat} {xs : List Value} :
    itemsAreDocuments depth xs = true ↔ ∀ x ∈ xs, isDocument depth x = true := by
  induction xs with
  | nil => simp [itemsAreDocuments]
  | cons x xs ih => rw [itemsAreDocuments, Bool.and_eq_true, ih, List.forall_mem_cons]

theorem entriesAreDocuments_iff {depth : Nat} {es : Entries} :
    entriesAreDocuments depth es = true ↔ ∀ e ∈ es, (∃ s, e.1 = .text s) ∧ isDocument depth e.2 = true := by
  induction es with
  | nil => simp [entriesAreDocuments]
  | cons e es ih =>
      obtain ⟨k, v⟩ := e
      cases k with
      | text s =>
        simp only [entriesAreDocuments, Bool.and_eq_true, ih, List.forall_mem_cons, text.injEq, exists_eq', true_and]
      | _ => simp [entriesAreDocuments]

theorem isDocument_list {depth : Nat} {xs : List Value} :
    isDocument depth (list xs) = true ↔ ∃ inner, depth = inner + 1 ∧ ∀ x ∈ xs, isDocument inner x = true := by
  cases depth <;> simp [isDocument, itemsAreDocuments_iff]

theorem isDocument_map {depth : Nat} {es : Entries} :
    isDocument depth (map es) = true ↔
      ∃ inner, depth = inner + 1 ∧ ∀ e ∈ es, (∃ s, e.1 = text s) ∧ isDocument inner e.2 = true := by
  cases depth <;> simp [isDocument, entriesAreDocuments_iff]

theorem toValues_of_toJsonItems {xs : List Value} {depth : Nat} {js : List Json}
    (ih : ∀ x ∈ xs, ∀ j, isDocument depth x = true → toJson x = .ok j → j.toValue = x ∧ j.fits depth = true)
    (hdoc : ∀ x ∈ xs, isDocument depth x = true) (h : toJsonItems xs = .ok js) :
    Json.toValues js = xs ∧ Json.fitItems depth js = true := by
  induction xs generalizing js with
  | nil =>
      obtain rfl := Except.ok.inj h
      exact ⟨rfl, rfl⟩
  | cons x xs ihxs =>
      obtain ⟨ihx, ihrest⟩ := List.forall_mem_cons.mp ih
      obtain ⟨hhead, hrest⟩ := List.forall_mem_cons.mp hdoc
      simp only [toJsonItems, bind_eq_ok] at h
      obtain ⟨j, hj, js', hjs, h⟩ := h
      obtain rfl := Except.ok.inj h
      obtain ⟨hx, hfit⟩ := ihx j hhead hj
      obtain ⟨hxs, hfits⟩ := ihxs ihrest hrest hjs
      exact ⟨by rw [Json.toValues, hx, hxs], by rw [Json.fitItems, hfit, hfits, Bool.and_self]⟩

theorem toEntries_of_toJsonMembers {es : Entries} {depth : Nat} {ms : List (String × Json)}
    (ih : ∀ e ∈ es, ∀ j, isDocument depth e.2 = true → toJson e.2 = .ok j → j.toValue = e.2 ∧ j.fits depth = true)
    (hdoc : ∀ e ∈ es, (∃ s, e.1 = text s) ∧ isDocument depth e.2 = true) (h : toJsonMembers es = .ok ms) :
    Json.toEntries ms = es ∧ Json.fitMembers depth ms = true := by
  induction es generalizing ms with
  | nil =>
      obtain rfl := Except.ok.inj h
      exact ⟨rfl, rfl⟩
  | cons e es ihes =>
      obtain ⟨ihe, ihrest⟩ := List.forall_mem_cons.mp ih
      obtain ⟨hhead, hrest⟩ := List.forall_mem_cons.mp hdoc
      obtain ⟨k, v⟩ := e
      obtain ⟨⟨s, rfl⟩, hv⟩ := hhead
      simp only [toJsonMembers, memberName, bind_ok, bind_eq_ok] at h
      obtain ⟨j, hj, ms', hms, h⟩ := h
      obtain rfl := Except.ok.inj h
      obtain ⟨hval, hfit⟩ := ihe j hv hj
      obtain ⟨hvals, hfits⟩ := ihes ihrest hrest hms
      exact ⟨by rw [Json.toEntries, hval, hvals], by rw [Json.fitMembers, hfit, hfits, Bool.and_self]⟩

/-- A value that stands for a document is what its JSON form is read as. -/
theorem toValue_of_toJson {t : Value} {depth : Nat} {j : Json} (hdoc : t.isDocument depth = true)
    (h : t.toJson = .ok j) : j.toValue = t ∧ j.fits depth = true := by
  induction t generalizing depth j with
  | null =>
      obtain rfl := Except.ok.inj h
      exact ⟨rfl, by simp [Json.fits]⟩
  | bool b =>
      obtain rfl := Except.ok.inj h
      exact ⟨rfl, by simp [Json.fits]⟩
  | text s =>
      obtain rfl := Except.ok.inj h
      exact ⟨rfl, by simp [Json.fits]⟩
  | int n =>
      rw [toJson, map_eq_ok] at h
      obtain ⟨m, hm, rfl⟩ := h
      rw [checkDigits] at hm
      split at hm
      · cases hm
      · rename_i hlimit
        obtain rfl := Except.ok.inj hm
        exact ⟨rfl, by rw [Json.fits, Bool.eq_false_iff.mpr hlimit, Bool.not_false]⟩
  | list xs ih =>
      obtain ⟨depth, rfl, hitems⟩ := isDocument_list.mp hdoc
      rw [toJson, map_eq_ok] at h
      obtain ⟨js, hjs, rfl⟩ := h
      obtain ⟨hvals, hfits⟩ := toValues_of_toJsonItems (fun x hx _ => ih x hx) hitems hjs
      exact ⟨by rw [Json.toValue, hvals], by rw [Json.fits, hfits]⟩
  | map es ih =>
      obtain ⟨depth, rfl, hentries⟩ := isDocument_map.mp hdoc
      rw [toJson, map_eq_ok] at h
      obtain ⟨ms, hms, rfl⟩ := h
      obtain ⟨hvals, hfits⟩ := toEntries_of_toJsonMembers (fun e he _ => (ih e he).2) hentries hms
      exact ⟨by rw [Json.toValue, hvals], by rw [Json.fits, hfits]⟩
  | _ => simp [isDocument] at hdoc

/-! ### Texts of values -/

/-- A text made of a value is the text of a document, which is the value's textual view. -/
theorem dump_eq_ok {v : Value} {s : String} (h : v.dump = .ok s) :
    ∃ t j, v.textual = .ok t ∧ t.toJson = .ok j ∧ s = j.render := by
  simp only [dump, encode, map_eq_ok, bind_eq_ok] at h
  obtain ⟨j, ⟨t, ht, hj⟩, rfl⟩ := h
  exact ⟨t, j, ht, hj, rfl⟩

/-- The text made of a value reads back as its textual view. -/
theorem parse_of_dump {limits : Json.Limits} {v t : Value} {s : String} (ht : v.textual = .ok t)
    (hdoc : t.isDocument limits.depth = true) (h : v.dump = .ok s) :
    ∃ j, Json.parse limits s.toList = .ok j ∧ j.toValue = t := by
  obtain ⟨t', j, ht', hj, rfl⟩ := dump_eq_ok h
  obtain rfl := Except.ok.inj (ht.symm.trans ht')
  obtain ⟨hval, hfit⟩ := toValue_of_toJson hdoc hj
  exact ⟨j, by rw [Json.render, String.toList_ofList, Json.parse_write hfit], hval⟩

end Value
end DaemonClient
