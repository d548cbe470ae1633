import DaemonClient.Proofs.Serialization
import DaemonClient.Proofs.Shown

/-! Entries that get lost on the wire (`dump_namesApart`). What is written for a value has its maps entry by entry
(`written_of_encode`), each entry under the name of its key; keys that are not text are written as the words and
numerals that JSON has for them. Two text keys never end under one name, nor do two words: such a map is refused. But a
text may spell a word that is another key of the map. Then both entries are written under one name, and a reader that
keeps each name once has one of them. Nothing else makes a name come twice. -/

namespace DaemonClient
open Outcome

namespace Json

/-! ### Names once -/

mutual

/-- No object in a document has two members with one name. -/
def namesOnce : Json → Bool
  | array js => itemsNameOnce js
  | object ms => decide (ms.map (·.1)).Nodup && membersNameOnce ms
  | _ => true

def itemsNameOnce : List Json → Bool
  | [] => true
  | j :: js => namesOnce j && itemsNameOnce js

def membersNameOnce : List (String × Json) → Bool
  | [] => true
  | (_, j) :: ms => namesOnce j && membersNameOnce ms

end

theorem namesOnce_array {js : List Json} : namesOnce (array js) = true ↔ ∀ j ∈ js, j.namesOnce = true := by
  rw [namesOnce]
  induction js with
  | nil => simp [itemsNameOnce]
  | cons j js ih => rw [itemsNameOnce, Bool.and_eq_true, ih, List.forall_mem_cons]

theorem namesOnce_object {ms : List (String × Json)} :
    namesOnce (object ms) = true ↔ (ms.map (·.1)).Nodup ∧ ∀ m ∈ ms, m.2.namesOnce = true := by
  have hmembers : membersNameOnce ms = true ↔ ∀ m ∈ ms, m.2.namesOnce = true := by
    induction ms with
    | nil => simp [membersNameOnce]
    | cons m ms ih => rw [membersNameOnce, Bool.and_eq_true, ih, List.forall_mem_cons]
  rw [namesOnce, Bool.and_eq_true, decide_eq_true_eq, hmembers]

end Json

namespace Value

/-! ### Keys and the names of their members -/

/-- Text, or octets that may read as text. -/
def isTextLike : Value → Bool
  | text _ | octets _ _ => true
  | _ => false

/-- Null, a truth value or an integer. -/
def isWord : Value → Bool
  | null | bool _ | int _ => true
  | _ => false

/-- The name under which an entry with a key is written, if the key can name a member. -/
def wireName? (k : Value) : Option String := (memberName (decodedKey k)).toOption

theorem decodedKey_of_isTextLike {k t : Value} (hk : isTextLike k = true) (h : textual k = .ok t) :
    t = decodedKey k ∧ ∃ s, t = text s := by
  cases k with
  | text s =>
      obtain rfl := Except.ok.inj h
      exact ⟨rfl, s, rfl⟩
  | octets holder bs => exact readOctets_of_textual h
  | _ => cases hk

/-- What is text or reads as text names the member of that name. -/
theorem decodedKey_of_memberName {k : Value} {name : String} (hk : isTextLike k = true)
    (h : memberName (decodedKey k) = .ok name) : decodedKey k = text name := by
  obtain ⟨-, s, hs⟩ := decodedKey_of_isTextLike hk (textual_of_named h)
  rw [hs] at h ⊢
  rw [Except.ok.inj h]

theorem wireName?_eq_some {k : Value} {name : String} :
    wireName? k = some name ↔ memberName (decodedKey k) = .ok name := by
  rw [wireName?]
  cases memberName (decodedKey k) <;> simp [Except.toOption]

/-- The name of a word reads as the word. -/
theorem parse_of_named_word {k : Value} {name : String} (hk : k.isWord = true) (h : memberName k = .ok name) :
    ∃ j, j.toValue = k ∧ Json.parseBody name = .ok j := by
  cases k with
  | null =>
      obtain rfl := Except.ok.inj h
      exact ⟨.null, rfl, Json.parseBody_render (j := .null) rfl⟩
  | bool b =>
      cases b with
      | false =>
          obtain rfl := Except.ok.inj h
          exact ⟨.bool false, rfl, Json.parseBody_render (j := .bool false) rfl⟩
      | true =>
          obtain rfl := Except.ok.inj h
          exact ⟨.bool true, rfl, Json.parseBody_render (j := .bool true) rfl⟩
  | int n =>
      rw [memberName, checkDigits] at h
      split at h
      · cases h
      · rename_i hdigits
        obtain rfl := Except.ok.inj h
        exact ⟨.int n, rfl, Json.parseBody_render (j := .int n) (by simpa [Json.fits] using hdigits)⟩
  | _ => cases hk

theorem decodedKey_of_isWord {k : Value} (hk : k.isWord = true) : decodedKey k = k := by
  cases k with
  | octets => cases hk
  | _ => rfl

/-- A key of a kind that the writer admits. -/
def isMemberKey (k : Value) : Bool := k.isTextLike || k.isWord

/-- Of text, octets included, and words, two keys of one kind that are written under one name are the same key. -/
theorem decodedKey_eq_of_named {k k' : Value} {name : String} (hk : k.isMemberKey = true) (hk' : k'.isMemberKey = true)
    (hkind : k.isTextLike = k'.isTextLike) (h : memberName (decodedKey k) = .ok name)
    (h' : memberName (decodedKey k') = .ok name) : decodedKey k = decodedKey k' := by
  cases htext : k.isTextLike with
  | true => rw [decodedKey_of_memberName htext h, decodedKey_of_memberName (hkind.symm.trans htext) h']
  | false =>
      have hword : k.isWord = true := by simpa [isMemberKey, htext] using hk
      have hword' : k'.isWord = true := by simpa [isMemberKey, ← hkind, htext] using hk'
      rw [decodedKey_of_isWord hword] at h ⊢
      rw [decodedKey_of_isWord hword'] at h' ⊢
      obtain ⟨j, rfl, hj⟩ := parse_of_named_word hword h
      obtain ⟨j', rfl, hj'⟩ := parse_of_named_word hword' h'
      rw [Except.ok.inj (hj.symm.trans hj')]

/-- A key that can name a member equals itself. -/
theorem same_self_of_named {k : Value} {name : String} (hk : k.isMemberKey = true)
    (h : memberName (decodedKey k) = .ok name) : (decodedKey k).same (decodedKey k) = true := by
  cases htext : k.isTextLike with
  | true => rw [decodedKey_of_memberName htext h, same_text, beq_self_eq_true]
  | false =>
      have hword : k.isWord = true := by simpa [isMemberKey, htext] using hk
      rw [decodedKey_of_isWord hword]
      cases k with
      | null => rfl
      | bool b => simp [same, sameNumber, toInt?]
      | int n => simp [same, sameNumber, toInt?]
      | _ => cases hword

/-! ### Maps whose entries are written under different names -/

/-- Two keys that are written under one name. -/
def coincide (k k' : Value) : Bool := (wireName? k).isSome && wireName? k == wireName? k'

theorem coincide_iff {k k' : Value} :
    coincide k k' = true ↔
      ∃ name, memberName (decodedKey k) = .ok name ∧ memberName (decodedKey k') = .ok name := by
  simp only [← wireName?_eq_some, coincide, Bool.and_eq_true, Option.isSome_iff_exists, beq_iff_eq]
  constructor
  · rintro ⟨⟨name, hname⟩, hsame⟩
    exact ⟨name, hname, hsame ▸ hname⟩
  · rintro ⟨name, hname, hname'⟩
    exact ⟨⟨name, hname⟩, hname.trans hname'.symm⟩

end Value

namespace Entries

/-- No two keys are written under one name, as far as one of them is text and the other is not (`mixed`), or as far as
both are text or both are not. -/
def namesApart (mixed : Bool) (es : Entries) : Prop :=
  es.Pairwise fun a b => (a.1.isTextLike != b.1.isTextLike) = mixed → a.1.coincide b.1 = false

instance (mixed : Bool) (es : Entries) : Decidable (namesApart mixed es) := inferInstanceAs (Decidable (es.Pairwise _))

theorem namesApart_true_and_false {es : Entries} :
    namesApart true es ∧ namesApart false es ↔ es.Pairwise fun a b => a.1.coincide b.1 = false := by
  rw [namesApart, namesApart, ← List.pairwise_and_iff]
  refine List.Pairwise.iff fun {a b} => ?_
  cases a.1.isTextLike != b.1.isTextLike <;> simp

end Entries

namespace Value

/-- All maps in a value pass a test. -/
def everyMap (test : Entries → Bool) : Value → Bool := every fun
  | map es => test es
  | _ => true

/-- The names of all maps in a value are apart. -/
def namesApart (mixed : Bool) : Value → Bool := everyMap fun es => decide (Entries.namesApart mixed es)

/-- All keys of all maps in a value are text, octets, null, truth values or integers. -/
def hasMemberKeys : Value → Bool := everyMap fun es => es.all (·.1.isMemberKey)

section

variable {test : Entries → Bool} {xs : List Value} {es : Entries}

theorem everyMap_list : everyMap test (list xs) = true ↔ ∀ x ∈ xs, x.everyMap test = true := by
  rw [everyMap, every_list]
  exact and_iff_right rfl

/-- A key holds no maps. -/
theorem everyMap_key {k : Value} (hk : k.isMemberKey = true) : k.everyMap test = true := by
  cases k with
  | list => cases hk
  | tuple => cases hk
  | map => cases hk
  | record => cases hk
  | _ => rfl

theorem everyMap_map (hkeys : ∀ e ∈ es, e.1.isMemberKey = true) :
    everyMap test (map es) = true ↔ test es = true ∧ ∀ e ∈ es, e.2.everyMap test = true := by
  rw [everyMap, every_map]
  exact and_congr_right fun _ => forall₂_congr fun e he => and_iff_right (everyMap_key (hkeys e he))

theorem hasMemberKeys_map :
    (map es).hasMemberKeys = true ↔ ∀ e ∈ es, e.1.isMemberKey = true ∧ e.2.hasMemberKeys = true := by
  constructor
  · intro h
    rw [hasMemberKeys, everyMap, every_map] at h
    have hkeys : ∀ e ∈ es, e.1.isMemberKey = true := List.all_eq_true.mp h.1
    exact fun e he => ⟨hkeys e he, (h.2 e he).2⟩
  · intro h
    have hkeys : ∀ e ∈ es, e.1.isMemberKey = true := fun e he => (h e he).1
    exact (everyMap_map hkeys).mpr ⟨List.all_eq_true.mpr hkeys, fun e he => (h e he).2⟩

theorem namesApart_map {mixed : Bool} (hkeys : ∀ e ∈ es, e.1.isMemberKey = true) :
    (map es).namesApart mixed = true ↔ Entries.namesApart mixed es ∧ ∀ e ∈ es, e.2.namesApart mixed = true := by
  rw [namesApart, everyMap_map hkeys, decide_eq_true_eq]

end

/-- Keys of one kind that differ once octets are read are written under different names. -/
theorem namesApart_of_distinct {es : Entries} (hkeys : ∀ e ∈ es, e.1.isMemberKey = true)
    (h : (decodedKeys es).Distinct) : Entries.namesApart false es := by
  rw [Entries.Distinct, decodedKeys, List.pairwise_map] at h
  refine h.imp_of_mem fun {a b} ha hb hnew hkind => ?_
  rw [Bool.eq_false_iff]
  intro hcoincide
  obtain ⟨name, hname, hname'⟩ := coincide_iff.mp hcoincide
  have hkey := decodedKey_eq_of_named (hkeys a ha) (hkeys b hb) (bne_eq_false_iff_eq.mp hkind) hname hname'
  rw [hkey, same_self_of_named (hkeys b hb) hname'] at hnew
  cases hnew

theorem nodup_some_iff {ms : List (String × Json)} :
    (ms.map fun m => some m.1).Nodup ↔ (ms.map (·.1)).Nodup := by
  simp only [List.Nodup, List.pairwise_map, ne_eq, Option.some.injEq]

/-- The members that are written for entries have different names exactly if no text key spells a word that is a key
beside it. -/
theorem nodup_iff_namesApart {es : Entries} {ms : List (String × Json)} (hkeys : ∀ e ∈ es, e.1.isMemberKey = true)
    (hdistinct : (decodedKeys es).Distinct)
    (h : List.Forall₂ (fun e m => memberName (decodedKey e.1) = .ok m.1 ∧ encode e.2 = .ok m.2) es ms) :
    (ms.map (·.1)).Nodup ↔ Entries.namesApart true es := by
  have hnames : ms.map (fun m => some m.1) = es.map fun e => wireName? e.1 := by
    clear hkeys hdistinct
    induction h with
    | nil => rfl
    | cons he _ ih => rw [List.map_cons, List.map_cons, ih, wireName?_eq_some.mpr he.1]
  have hnamed : ∀ e ∈ es, (wireName? e.1).isSome = true := by
    intro e he
    obtain ⟨m, -, hm⟩ := exists_mem_of_forall₂ h.flip he
    rw [wireName?_eq_some.mpr hm.1, Option.isSome_some]
  calc (ms.map (·.1)).Nodup
      ↔ (ms.map fun m => some m.1).Nodup := nodup_some_iff.symm
    _ ↔ es.Pairwise fun a b => wireName? a.1 ≠ wireName? b.1 := by
        rw [hnames, List.Nodup, List.pairwise_map]
    _ ↔ es.Pairwise fun a b => a.1.coincide b.1 = false := by
        refine List.Pairwise.iff_of_mem fun {a b} ha _ => ?_
        rw [coincide, hnamed a ha, Bool.true_and, beq_eq_false_iff_ne]
    _ ↔ Entries.namesApart true es := by
        rw [← Entries.namesApart_true_and_false, and_iff_left (namesApart_of_distinct hkeys hdistinct)]

/-! ### How a value is put together -/

/-- The rows and the maps of a value, with the names of the members of the maps, in order. -/
inductive Outline
  | leaf
  | row (items : List Outline)
  | members (members : List (Option String × Outline))

mutual

/-- How many rows and maps are inside one another where they are most. -/
def Outline.nesting : Outline → Nat
  | leaf => 0
  | row items => nestingItems items + 1
  | members ms => nestingMembers ms + 1

def Outline.nestingItems : List Outline → Nat
  | [] => 0
  | o :: os => max (nesting o) (nestingItems os)

def Outline.nestingMembers : List (Option String × Outline) → Nat
  | [] => 0
  | (_, o) :: ms => max (nesting o) (nestingMembers ms)

end

mutual

def outline : Value → Outline
  | list xs => .row (outlineItems xs)
  | tuple xs => .row (outlineItems xs)
  | map es => .members (outlineEntries es)
  | _ => .leaf

def outlineItems : List Value → List Outline
  | [] => []
  | x :: xs => outline x :: outlineItems xs

def outlineEntries : List (Value × Value) → List (Option String × Outline)
  | [] => []
  | (k, v) :: es => (wireName? k, outline v) :: outlineEntries es

end

theorem outline_list (xs : List Value) : outline (list xs) = .row (xs.map outline) := by
  rw [outline]
  refine congrArg Outline.row ?_
  induction xs with
  | nil => rfl
  | cons x xs ih => rw [outlineItems, ih, List.map_cons]

theorem outline_tuple (xs : List Value) : outline (tuple xs) = outline (list xs) := by
  rw [outline, outline]

theorem outline_map (es : Entries) : outline (map es) = .members (es.map fun e => (wireName? e.1, outline e.2)) := by
  rw [outline]
  refine congrArg Outline.members ?_
  induction es with
  | nil => rfl
  | cons e es ih => rw [outlineEntries, ih, List.map_cons]

end Value

namespace Json

theorem outline_toValue_array (js : List Json) :
    (array js).toValue.outline = .row (js.map fun j => j.toValue.outline) := by
  rw [toValue, toValues_eq_map, Value.outline_list, List.map_map]
  rfl

theorem outline_toValue_object (ms : List (String × Json)) :
    (object ms).toValue.outline = .members (ms.map fun m => (some m.1, m.2.toValue.outline)) := by
  rw [toValue, toEntries_eq_map, Value.outline_map, List.map_map]
  rfl

theorem nesting_outline (j : Json) : j.toValue.outline.nesting = j.nesting := by
  induction j with
  | array js ih =>
      rw [outline_toValue_array, Value.Outline.nesting, nesting]
      refine congrArg (· + 1) ?_
      induction js with
      | nil => rfl
      | cons j js ihjs =>
          obtain ⟨hj, hjs⟩ := List.forall_mem_cons.mp ih
          rw [List.map_cons, Value.Outline.nestingItems, nestingItems, hj, ihjs hjs]
  | object ms ih =>
      rw [outline_toValue_object, Value.Outline.nesting, nesting]
      refine congrArg (· + 1) ?_
      induction ms with
      | nil => rfl
      | cons m ms ihms =>
          obtain ⟨hm, hms⟩ := List.forall_mem_cons.mp ih
          rw [List.map_cons, Value.Outline.nestingMembers, nestingMembers, hm, ihms hms]
  | _ => rfl

/-- Reading floats again changes neither names nor what holds what. -/
theorem outline_reread (j : Json) : j.reread.toValue.outline = j.toValue.outline := by
  induction j with
  | array js ih =>
      rw [reread_array, outline_toValue_array, outline_toValue_array, List.map_map]
      exact congrArg Value.Outline.row (List.map_congr_left ih)
  | object ms ih =>
      rw [reread_object, outline_toValue_object, outline_toValue_object, List.map_map]
      exact congrArg Value.Outline.members (List.map_congr_left fun m hm => Prod.ext rfl (ih m hm))
  | _ => rfl

theorem namesOnce_reread (j : Json) : j.reread.namesOnce = true ↔ j.namesOnce = true := by
  induction j with
  | array js ih =>
      rw [reread_array, namesOnce_array, namesOnce_array, List.forall_mem_map]
      exact forall₂_congr ih
  | object ms ih =>
      rw [reread_object, namesOnce_object, namesOnce_object, List.map_map, List.forall_mem_map]
      exact and_congr_right fun _ => forall₂_congr ih
  | _ => exact Iff.rfl

/-- Members with different names are a map as they are. -/
theorem distinct_of_nodup {ms : List (String × Json)} {f : Json → Value} (h : (ms.map (·.1)).Nodup) :
    Entries.Distinct (ms.map fun m => (.text m.1, f m.2)) := by
  rw [List.Nodup, List.pairwise_map] at h
  rw [Entries.Distinct, List.pairwise_map]
  refine h.imp fun {a b} hne => ?_
  rw [Value.same_text, beq_eq_false_iff_ne]
  exact hne.symm

/-- Members have different names if a map that keeps each name once has the same names. -/
theorem nodup_of_ofList {ms : List (String × Json)} {es : Entries}
    (h : (Entries.ofList es).map (fun e => Value.wireName? e.1) = ms.map fun m => some m.1)
    (htexts : ∀ e ∈ es, ∃ s, e.1 = .text s) : (ms.map (·.1)).Nodup := by
  have hkeys : ∀ e ∈ Entries.ofList es, (∃ s, e.1 = .text s) ∧ True :=
    Entries.forall_ofList (P := fun k => ∃ s, k = .text s) (Q := fun _ => True) fun e he => ⟨htexts e he, trivial⟩
  have hnodup : ((Entries.ofList es).map fun e => Value.wireName? e.1).Nodup := by
    rw [List.Nodup, List.pairwise_map]
    refine (Entries.distinct_ofList es).imp_of_mem fun {a b} ha hb hnew hsame => ?_
    obtain ⟨⟨s, hs⟩, -⟩ := hkeys a ha
    obtain ⟨⟨t, ht⟩, -⟩ := hkeys b hb
    rw [hs, ht] at hsame hnew
    obtain rfl : s = t := Option.some.inj hsame
    rw [Value.same_text, beq_self_eq_true] at hnew
    cases hnew
  rw [h] at hnodup
  exact Value.nodup_some_iff.mp hnodup

/-- A document as data is put together as it was written exactly if it has each name once in each object. -/
theorem outline_plain_iff (j : Json) : j.plain.outline = j.toValue.outline ↔ j.namesOnce = true := by
  induction j with
  | array js ih =>
      rw [plain_array, Value.outline_list, outline_toValue_array, namesOnce_array, Value.Outline.row.injEq,
        List.map_map, List.map_inj_left]
      exact forall₂_congr ih
  | object ms ih =>
      have hmembers : (ms.map fun m => (some m.1, m.2.plain.outline)) =
          (ms.map fun m => (some m.1, m.2.toValue.outline)) ↔ ∀ m ∈ ms, m.2.namesOnce = true := by
        rw [List.map_inj_left]
        refine forall₂_congr fun m hm => ?_
        rw [Prod.mk.injEq, and_iff_right rfl, ih m hm]
      have hplain (hnodup : (ms.map (·.1)).Nodup) :
          (object ms).plain.outline = .members (ms.map fun m => (some m.1, m.2.plain.outline)) := by
        rw [plain_object, Entries.ofList_of_distinct (distinct_of_nodup hnodup), Value.outline_map, List.map_map]
        rfl
      rw [namesOnce_object, outline_toValue_object]
      constructor
      · intro h
        have hnames := h
        rw [plain_object, Value.outline_map, Value.Outline.members.injEq] at hnames
        have hnodup : (ms.map (·.1)).Nodup := by
          have hsome := congrArg (List.map Prod.fst) hnames
          rw [List.map_map, List.map_map] at hsome
          exact nodup_of_ofList hsome (List.forall_mem_map.mpr fun m _ => ⟨m.1, rfl⟩)
        rw [hplain hnodup, Value.Outline.members.injEq] at h
        exact ⟨hnodup, hmembers.mp h⟩
      · rintro ⟨hnodup, hms⟩
        rw [hplain hnodup, hmembers.mpr hms]
  | _ => exact ⟨fun _ => rfl, fun _ => rfl⟩

end Json

namespace Value

/-! ### What is written -/

/-- What the document of a value has in common with it. -/
structure Written (v : Value) (j : Json) : Prop where
  /-- Its text can be read. -/
  writable : j.isWritable = true
  /-- Entry by entry its objects are the maps of the value. -/
  outline : j.toValue.outline = v.outline
  /-- No two text keys of one map are written under one name, and no two words. -/
  apart : v.namesApart false = true
  /-- A name comes twice exactly where a text key spells a word that is a key beside it. -/
  once : j.namesOnce = true ↔ v.namesApart true = true

theorem Written.of_leaf {v : Value} {j : Json} (hwritable : j.isWritable = true)
    (houtline : j.toValue.outline = v.outline) (honce : j.namesOnce = true)
    (hapart : ∀ mixed, v.namesApart mixed = true) : Written v j :=
  ⟨hwritable, houtline, hapart false, fun _ => hapart true, fun _ => honce⟩

theorem Written.of_items {xs : List Value} {js : List Json} (h : List.Forall₂ Written xs js) :
    Written (list xs) (.array js) := by
  refine ⟨Json.isWritable_array.mpr fun j hj => ?_, ?_, everyMap_list.mpr fun x hx => ?_, ?_⟩
  · obtain ⟨x, -, hx⟩ := exists_mem_of_forall₂ h hj
    exact hx.writable
  · rw [Json.outline_toValue_array, outline_list]
    refine congrArg Outline.row ?_
    induction h with
    | nil => rfl
    | cons hx _ ih => rw [List.map_cons, List.map_cons, hx.outline, ih]
  · obtain ⟨j, -, hj⟩ := exists_mem_of_forall₂ h.flip hx
    exact hj.apart
  · rw [Json.namesOnce_array, namesApart, everyMap_list]
    exact forall_mem_iff_of_forall₂ (h.imp fun _ _ hx => hx.once)

theorem Written.of_entries {es : Entries} {ms : List (String × Json)} (hkeys : ∀ e ∈ es, e.1.isMemberKey = true)
    (hdistinct : (decodedKeys es).Distinct)
    (hms : List.Forall₂ (fun e m => memberName (decodedKey e.1) = .ok m.1 ∧ encode e.2 = .ok m.2) es ms)
    (h : List.Forall₂ (fun e m => Written e.2 m.2) es ms) : Written (map es) (.object ms) := by
  refine ⟨Json.isWritable_object.mpr fun m hm => ?_, ?_, (namesApart_map hkeys).mpr ⟨?_, fun e he => ?_⟩, ?_⟩
  · obtain ⟨e, -, he⟩ := exists_mem_of_forall₂ h hm
    exact he.writable
  · rw [Json.outline_toValue_object, outline_map]
    refine congrArg Outline.members ?_
    clear hkeys hdistinct
    induction h with
    | nil => rfl
    | cons he _ ih =>
        obtain ⟨hname, hrest⟩ := List.forall₂_cons.mp hms
        rw [List.map_cons, List.map_cons, he.outline, wireName?_eq_some.mpr hname.1, ih hrest]
  · exact namesApart_of_distinct hkeys hdistinct
  · obtain ⟨m, -, hm⟩ := exists_mem_of_forall₂ h.flip he
    exact hm.apart
  · rw [Json.namesOnce_object, namesApart_map hkeys, nodup_iff_namesApart hkeys hdistinct hms]
    exact and_congr_right fun _ => forall_mem_iff_of_forall₂ (h.imp fun _ _ he => he.once)

theorem written_of_list {xs : List Value} {j : Json}
    (ih : ∀ x ∈ xs, ∀ j, x.hasMemberKeys = true → x.encode = .ok j → Written x j)
    (hkeys : (list xs).hasMemberKeys = true) (h : encode (list xs) = .ok j) : Written (list xs) j := by
  obtain ⟨js, rfl, hjs⟩ := encode_list_eq_ok.mp h
  refine .of_items (((List.forall₂_and_left _ _).mpr ⟨fun x hx => hx, hjs⟩).imp ?_)
  rintro x j ⟨hx, hj⟩
  exact ih x hx j (everyMap_list.mp hkeys x hx) hj

/-- The document of a value whose keys are text or words. -/
theorem written_of_encode {v : Value} {j : Json} (hkeys : v.hasMemberKeys = true) (h : v.encode = .ok j) :
    Written v j := by
  induction v generalizing j with
  | int n =>
      obtain ⟨hlimit, rfl⟩ := encode_int_eq_ok.mp h
      exact .of_leaf (by rw [Json.isWritable, hlimit, Bool.not_false]) rfl rfl fun _ => rfl
  | float x =>
      obtain ⟨t, ht, hj⟩ := encode_eq_ok.mp h
      obtain rfl := Except.ok.inj ht
      rw [toJson, checkFinite] at hj
      split at hj
      · rename_i hfinite
        obtain rfl := Except.ok.inj hj
        exact .of_leaf hfinite rfl rfl fun _ => rfl
      · cases hj
  | octets holder bs =>
      obtain ⟨s, rfl, -⟩ := encode_octets_eq_ok.mp h
      exact .of_leaf rfl rfl rfl fun _ => rfl
  | list xs ih => exact written_of_list (fun x hx _ => ih x hx) hkeys h
  | tuple xs ih =>
      have hlist := written_of_list (fun x hx _ => ih x hx) hkeys (encode_tuple xs ▸ h)
      exact ⟨hlist.writable, hlist.outline.trans (outline_tuple xs).symm, hlist.apart, hlist.once⟩
  | map es ih =>
      obtain ⟨ms, rfl, hdistinct, hms⟩ := encode_map_eq_ok.mp h
      have hes := hasMemberKeys_map.mp hkeys
      refine .of_entries (fun e he => (hes e he).1) hdistinct hms ?_
      refine ((List.forall₂_and_left _ _).mpr ⟨fun e he => he, hms⟩).imp ?_
      rintro e m ⟨he, -, hj⟩
      exact (ih e he).2 (hes e he).2 hj
  | record => cases h
  | foreign => cases h
  | _ =>
      obtain rfl := Except.ok.inj h
      exact .of_leaf rfl rfl rfl fun _ => rfl

/-- **Written entries keep a member each unless a text key spells a word that is a key beside it.** The text of a value
is read as its maps entry by entry and in order, each entry under the name of its key. A name comes twice in an object
exactly where a map has a text key and another key that is written like it, and then, and only then, fewer members are
left where each name is kept once. Where two text keys of one map read alike, octets included, or two other keys are
equal, the value is refused. -/
theorem dump_namesApart {v : Value} (hkeys : v.hasMemberKeys = true) :
    (∀ s, v.dump = .ok s → ∀ limits : Json.Limits, v.outline.nesting ≤ limits.depth →
      ∃ j, Json.parse limits s.toList = .ok j ∧ j.toValue.outline = v.outline ∧
        (j.namesOnce = true ↔ v.namesApart true = true) ∧ (j.plain.outline = v.outline ↔ v.namesApart true = true)) ∧
    (v.namesApart false = false → ∃ f, v.serialize = .error (.json f)) := by
  constructor
  · intro s hs limits hdepth
    obtain ⟨j, hj, rfl⟩ := map_eq_ok.mp hs
    obtain ⟨hwritable, houtline, -, honce⟩ := written_of_encode hkeys hj
    rw [← houtline, Json.nesting_outline] at hdepth
    refine ⟨j.reread, ?_, ?_, ?_, ?_⟩
    · rw [Json.render, String.toList_ofList, Json.parse_write_reread hwritable hdepth]
    · rw [Json.outline_reread, houtline]
    · rw [Json.namesOnce_reread, honce]
    · rw [← houtline, ← Json.outline_reread, Json.outline_plain_iff, Json.namesOnce_reread, honce]
  · intro hcoincide
    apply (settled_serialize v).refused
    rw [Bool.eq_false_iff]
    intro hwritable
    obtain ⟨j, hj⟩ := encode_iff.mpr hwritable
    rw [(written_of_encode hkeys hj).apart] at hcoincide
    cases hcoincide

/-- A map with keys of all kinds, written under different names, and in it a map that has its items in a tuple. -/
def keysOfAllKinds : Value :=
  .map [(.text "a", .null), (.octets .fixed [0x62], .map [(.int 1, .tuple [.bool true]),
    (.text "2", .float ⟨0x3FF0000000000000⟩)]), (.int (-1), .null), (.bool true, .null), (.null, .text "null")]

/-- A map with a text key and octets that read as the same text. -/
def keysReadAlike : Value := .map [(.text "1", .null), (.octets .fixed [0x31], .null)]

theorem dump_namesApart_keysOfAllKinds :
    (keysOfAllKinds.hasMemberKeys = true ∧ keysOfAllKinds.outline.nesting ≤ Json.bodyDepth ∧
      ∃ s j, keysOfAllKinds.dump = .ok s ∧ Json.parseBody s = .ok j ∧ j.namesOnce = true ∧
        j.plain.outline = keysOfAllKinds.outline) ∧
    keysReadAlike.hasMemberKeys = true ∧ ∃ f, keysReadAlike.serialize = .error (.json f) := by
  have hkeys : keysOfAllKinds.hasMemberKeys = true := by decide
  have hkeys' : keysReadAlike.hasMemberKeys = true := by decide
  have hdepth : keysOfAllKinds.outline.nesting ≤ Json.bodyDepth := by decide
  have hapart : keysOfAllKinds.namesApart true = true := by decide +kernel
  obtain ⟨s, hs⟩ := dump_iff.mpr (show keysOfAllKinds.isWritable = true by decide +kernel)
  obtain ⟨j, hj, -, honce, hplain⟩ := (dump_namesApart hkeys).1 s hs Json.bodyLimits hdepth
  refine ⟨⟨hkeys, hdepth, s, j, hs, hj, honce.mpr hapart, hplain.mpr hapart⟩, hkeys', ?_⟩
  exact (dump_namesApart hkeys').2 (by decide +kernel)

/-- A map with a number as key and its numeral as another. -/
def numeralBesideNumber : Value := .map [(.int 1, .null), (.text "1", .null)]

/-- Under a number and its numeral two members of one name are written, of which one is left where the text is read. -/
theorem dump_namesTwice :
    numeralBesideNumber.hasMemberKeys = true ∧ numeralBesideNumber.dump = .ok "\x7b\"1\":null,\"1\":null\x7d" ∧
      ∃ j, Json.parseBody "\x7b\"1\":null,\"1\":null\x7d" = .ok j ∧ j.namesOnce = false ∧
        j.plain = .map [(.text "1", .null)] := by
  have hrender : Json.render (.object [("1", .null), ("1", .null)]) = "\x7b\"1\":null,\"1\":null\x7d" := by
    decide +kernel
  have hname : memberName (.int 1) = .ok "1" := by
    rw [memberName, checkDigits, if_neg (by decide +kernel)]
    rfl
  have hencode : numeralBesideNumber.encode = .ok (.object [("1", .null), ("1", .null)]) :=
    encode_map_eq_ok.mpr ⟨_, rfl, by decide +kernel, .cons ⟨hname, rfl⟩ (.cons ⟨rfl, rfl⟩ .nil)⟩
  rw [dump, hencode, map_ok, ← hrender]
  exact ⟨rfl, rfl, _, Json.parseBody_render rfl, rfl, rfl⟩

end Value
end DaemonClient
