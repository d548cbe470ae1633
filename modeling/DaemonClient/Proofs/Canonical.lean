import DaemonClient.Proofs.Typed
import DaemonClient.Proofs.WireForm

/-! One value in many forms: text in characters or in octets, whatever holds them, and items in a list or in a tuple.
Forms of one value have the same textual view or are refused for the same fault (`textual_eq_of_interchangeable`), the
view is a form of the value itself (`interchangeable_of_textual`), and it holds no octets and no tuples
(`isTextual_of_textual`). So two values with views are forms of one value exactly if their views are equal
(`textual_canonical`). -/

namespace DaemonClient
open Outcome

namespace Value

/-! ### Forms of one value -/

/-- The octets of a text, in whatever form the text is held. -/
def textOctets? : Value → Option (List UInt8)
  | text s => some (Utf8.encode s)
  | octets _ bs => some bs
  | _ => none

/-- The items of a list or a tuple. -/
def sequence? : Value → Option (List Value)
  | list xs => some xs
  | tuple xs => some xs
  | _ => none

/-- Two entries with related keys and related values. -/
inductive Entrywise (R : Value → Value → Prop) : Value × Value → Value × Value → Prop
  | entry {k k' v v' : Value} (hkey : R k k') (hvalue : R v v') : Entrywise R (k, v) (k', v')

/-- Two values that differ at most in how text is held, in keys as in values, and in what holds items. Items and entries
correspond one by one, in their order. A record is a leaf. -/
inductive Interchangeable : Value → Value → Prop
  | same (v : Value) : Interchangeable v v
  | text {v w : Value} {bs : List UInt8} (hv : v.textOctets? = some bs) (hw : w.textOctets? = some bs) :
    Interchangeable v w
  | items {v w : Value} {xs ys : List Value} (hv : v.sequence? = some xs) (hw : w.sequence? = some ys)
    (h : List.Forall₂ Interchangeable xs ys) : Interchangeable v w
  | map {es fs : Entries} (h : List.Forall₂ (Entrywise Interchangeable) es fs) : Interchangeable (map es) (map fs)

namespace Interchangeable

variable {v w u : Value} {P : Value → Value → Prop}

/-- Induction over forms of one value: what holds of their parts side by side holds of them. -/
theorem induct (same : ∀ v, P v v)
    (text : ∀ {v w bs}, v.textOctets? = some bs → w.textOctets? = some bs → P v w)
    (items : ∀ {v w xs ys}, v.sequence? = some xs → w.sequence? = some ys → List.Forall₂ P xs ys → P v w)
    (map : ∀ {es fs : Entries}, List.Forall₂ (fun e f => P e.1 f.1 ∧ P e.2 f.2) es fs → P (.map es) (.map fs))
    (h : v.Interchangeable w) : P v w :=
  @Interchangeable.rec (fun v w _ => P v w) (fun xs ys _ => List.Forall₂ P xs ys)
    (fun (es fs : Entries) _ => List.Forall₂ (fun e f : Value × Value => P e.1 f.1 ∧ P e.2 f.2) es fs)
    (fun (e f : Value × Value) _ => P e.1 f.1 ∧ P e.2 f.2) same
    (fun hv hw => text hv hw) (fun hv hw _ ih => items hv hw ih) (fun _ ih => map ih)
    .nil (fun _ _ hx hxs => .cons hx hxs) .nil (fun _ _ he hes => .cons he hes) (fun _ _ hk hv => ⟨hk, hv⟩) v w h

theorem entries {es fs : Entries}
    (h : List.Forall₂ (fun e f => e.1.Interchangeable f.1 ∧ e.2.Interchangeable f.2) es fs) :
    (Value.map es).Interchangeable (.map fs) :=
  .map (h.imp fun _ _ he => .entry he.1 he.2)

theorem symm (h : v.Interchangeable w) : w.Interchangeable v := by
  refine induct (P := fun v w => w.Interchangeable v) ?same ?text ?items ?map h
  case same => exact same
  case text => exact fun hv hw => text hw hv
  case items => exact fun hv hw ih => items hw hv ih.flip
  case map => exact fun ih => entries ih.flip

/-- No text has items. -/
theorem sequence?_of_textOctets {bs : List UInt8} (h : v.textOctets? = some bs) : v.sequence? = none := by
  cases v <;> first | rfl | cases h

theorem trans (h : v.Interchangeable w) (h' : w.Interchangeable u) : v.Interchangeable u := by
  refine induct (P := fun v w => ∀ u, w.Interchangeable u → v.Interchangeable u) ?same ?text ?items ?map h u h'
  case same => exact fun v u h => h
  case text =>
    intro v w bs hv hw u h'
    cases h' with
    | same => exact text hv hw
    | text hw' hu => exact text hv (hu.trans (hw'.symm.trans hw))
    | items hw' =>
        rw [sequence?_of_textOctets hw] at hw'
        cases hw'
    | map => cases hw
  case items =>
    intro v w xs ys hv hw ih u h'
    cases h' with
    | same => exact items hv hw (ih.imp fun _ y hxy => hxy y (same y))
    | text hw' =>
        rw [sequence?_of_textOctets hw'] at hw
        cases hw
    | items hw' hu h' =>
        obtain rfl := Option.some.inj (hw.symm.trans hw')
        refine items hv hu ((forall₂_forall₂_iff.mp ⟨ys, ih, h'⟩).imp ?_)
        rintro x z ⟨y, hxy, hyz⟩
        exact hxy z hyz
    | map => cases hw
  case map =>
    intro es fs ih u h'
    cases h' with
    | same => exact entries (ih.imp fun _ f he => ⟨he.1 _ (same f.1), he.2 _ (same f.2)⟩)
    | text hw => cases hw
    | items hw => cases hw
    | map h' =>
        refine map ((forall₂_forall₂_iff.mp ⟨fs, ih, h'⟩).imp ?_)
        rintro e g ⟨f, ⟨ihkey, ihvalue⟩, hfg⟩
        cases hfg with
        | entry hkey hvalue => exact .entry (ihkey _ hkey) (ihvalue _ hvalue)

end Interchangeable

/-! ### One view for all forms -/

theorem textual_of_textOctets {v : Value} {bs : List UInt8} (h : v.textOctets? = some bs) :
    textual v = text <$> decodeText bs := by
  cases v with
  | text s =>
      obtain rfl := Option.some.inj h
      rw [decodeText_encode]
      rfl
  | octets holder bs' =>
      obtain rfl := Option.some.inj h
      rfl
  | _ => cases h

theorem textual_of_sequence {v : Value} {xs : List Value} (h : v.sequence? = some xs) :
    textual v = list <$> textualItems xs := by
  cases v with
  | list ys =>
      obtain rfl := Option.some.inj h
      rfl
  | tuple ys =>
      obtain rfl := Option.some.inj h
      rfl
  | _ => cases h

/-- Forms of one value have one view, or are refused for one fault. -/
theorem textual_eq_of_interchangeable {v w : Value} (h : v.Interchangeable w) : textual v = textual w := by
  refine Interchangeable.induct (P := fun v w => textual v = textual w) ?same ?text ?items ?map h
  case same => exact fun v => rfl
  case text => exact fun hv hw => (textual_of_textOctets hv).trans (textual_of_textOctets hw).symm
  case items =>
    intro v w xs ys hv hw ih
    rw [textual_of_sequence hv, textual_of_sequence hw, textualItems_congr ih]
  case map =>
    intro es fs ih
    rw [textual, textual, textualEntries_congr ih]

/-! ### The view as a form -/

/-- **A view is a form of the value**: the same items and entries in the same order. -/
theorem interchangeable_of_textual {v t : Value} (h : textual v = .ok t) : v.Interchangeable t := by
  refine textual_induct ?leaf ?octets ?items ?map h
  case leaf => exact fun _ => .same _
  case octets => exact fun _ _ => .text rfl rfl
  case items => exact fun hys => ⟨.items rfl rfl hys, .items rfl rfl hys⟩
  case map => exact fun _ hnew => .entries hnew

mutual

/-- A value without octets and without tuples, in keys as in values. A record is a leaf. -/
def isTextual : Value → Bool
  | octets _ _ => false
  | tuple _ => false
  | list xs => itemsAreTextual xs
  | map es => entriesAreTextual es
  | _ => true

def itemsAreTextual : List Value → Bool
  | [] => true
  | x :: xs => isTextual x && itemsAreTextual xs

def entriesAreTextual : List (Value × Value) → Bool
  | [] => true
  | (k, v) :: es => isTextual k && isTextual v && entriesAreTextual es

end

theorem isTextual_list {xs : List Value} : isTextual (list xs) = true ↔ ∀ x ∈ xs, x.isTextual = true := by
  rw [isTextual]
  induction xs with
  | nil => simp [itemsAreTextual]
  | cons x xs ih => rw [itemsAreTextual, Bool.and_eq_true, ih, List.forall_mem_cons]

theorem isTextual_map {es : Entries} :
    isTextual (map es) = true ↔ ∀ e ∈ es, e.1.isTextual = true ∧ e.2.isTextual = true := by
  rw [isTextual]
  induction es with
  | nil => simp [entriesAreTextual]
  | cons e es ih => rw [entriesAreTextual, Bool.and_eq_true, Bool.and_eq_true, ih, List.forall_mem_cons]

/-- A view holds no octets and no tuples. -/
theorem isTextual_of_textual {v t : Value} (h : textual v = .ok t) : t.isTextual = true := by
  refine textual_induct (P := fun _ t => t.isTextual = true) ?leaf ?octets ?items ?map h
  case leaf =>
    intro v hleaf
    cases v <;> first | rfl | cases hleaf
  case octets => exact fun _ _ => rfl
  case items =>
    intro xs ys hys
    have hlist : isTextual (list ys) = true := by
      refine isTextual_list.mpr fun y hy => ?_
      obtain ⟨x, -, htextual⟩ := exists_mem_of_forall₂ hys hy
      exact htextual
    exact ⟨hlist, hlist⟩
  case map =>
    intro es new _ hnew
    refine isTextual_map.mpr fun n hn => ?_
    obtain ⟨e, -, htextual⟩ := exists_mem_of_forall₂ hnew hn
    exact htextual

/-! ### The canonical form -/

/-- **The textual view is a canonical form.** Forms of one value have one view or are refused for one fault. A view
holds no octets and no tuples, in keys as in values; it has the items and the entries of the value in their order; it is
its own view; and it is the view of exactly the forms of the value. -/
theorem textual_canonical (v : Value) :
    (∀ w, v.Interchangeable w → textual v = textual w) ∧
    ∀ t, textual v = .ok t → t.isTextual = true ∧ v.Interchangeable t ∧ textual t = .ok t ∧
      ∀ w, textual w = .ok t ↔ v.Interchangeable w := by
  refine ⟨fun w => textual_eq_of_interchangeable, fun t ht => ?_⟩
  have hform := interchangeable_of_textual ht
  refine ⟨isTextual_of_textual ht, hform, (textual_eq_of_interchangeable hform).symm.trans ht, fun w => ?_⟩
  constructor
  · intro hw
    exact hform.trans (interchangeable_of_textual hw).symm
  · intro hw
    exact (textual_eq_of_interchangeable hw).symm.trans ht

/-- A value with text in octets, a tuple, and a map with an octet key inside. -/
def inOctets : Value :=
  .map [(.octets .fixed [0xC3, 0xA9], .tuple [.octets .buffer [0x61], .text "b", .null]),
    (.int 1, .map [(.octets .view [0x6B], .list [])])]

/-- The same value in another form. -/
def inCharacters : Value :=
  .map [(.text "é", .list [.text "a", .octets .view [0x62], .null]), (.int 1, .map [(.text "k", .tuple [])])]

/-- A map with two keys that read alike, held in one way or the other. -/
def clashing (key key' : Value) : Value := .map [(key, .text "a"), (key', .text "b")]

theorem textual_canonical_twoForms :
    (inOctets.Interchangeable inCharacters ∧ textual inCharacters =
      .ok (.map [(.text "é", .list [.text "a", .text "b", .null]), (.int 1, .map [(.text "k", .list [])])])) ∧
    (clashing (.text "l") (.octets .fixed [0x6C])).Interchangeable (clashing (.octets .view [0x6C]) (.text "l")) ∧
      textual (clashing (.octets .view [0x6C]) (.text "l")) = .error (.duplicateKey (.text "l")) := by
  have hform : inOctets.Interchangeable inCharacters :=
    .entries (.cons ⟨.text rfl rfl, .items rfl rfl (.cons (.text rfl rfl) (.cons (.text rfl rfl) (.cons (.same _) .nil)))⟩
      (.cons ⟨.same _, .entries (.cons ⟨.text rfl rfl, .items rfl rfl .nil⟩ .nil)⟩ .nil))
  have hclash : (clashing (.text "l") (.octets .fixed [0x6C])).Interchangeable
      (clashing (.octets .view [0x6C]) (.text "l")) :=
    .entries (.cons ⟨.text rfl rfl, .same _⟩ (.cons ⟨.text rfl rfl, .same _⟩ .nil))
  exact ⟨⟨hform, (((textual_canonical inOctets).2 _ rfl).2.2.2 inCharacters).mpr hform⟩, hclash,
    ((textual_canonical _).1 _ hclash).symm.trans rfl⟩

end Value
end DaemonClient
