import DaemonClient.Proofs.WireForm

/-! Which values have a JSON form (`dump_iff`). A list has one if its items do. A map has one if its values do, each of
its keys can name a member once its octets are read as text, and no two keys are equal then. -/

namespace DaemonClient
open Outcome

namespace Value

/-! ### JSON forms of lists and maps -/

theorem toJsonItems_eq_ok {xs : List Value} {js : List Json} :
    toJsonItems xs = .ok js ↔ List.Forall₂ (fun x j => toJson x = .ok j) xs js := by
  induction xs generalizing js with
  | nil => simp [toJsonItems, eq_comm]
  | cons x xs ih =>
      simp only [toJsonItems, bind_eq_ok, ih, List.forall₂_cons_left_iff]
      constructor
      · rintro ⟨j, hj, js', hjs, h⟩
        exact ⟨j, js', hj, hjs, (Except.ok.inj h).symm⟩
      · rintro ⟨j, js', hj, hjs, rfl⟩
        exact ⟨j, hj, js', hjs, rfl⟩

theorem toJsonMembers_eq_ok {es : Entries} {ms : List (String × Json)} :
    toJsonMembers es = .ok ms ↔
      List.Forall₂ (fun e m => memberName e.1 = .ok m.1 ∧ toJson e.2 = .ok m.2) es ms := by
  induction es generalizing ms with
  | nil => simp [toJsonMembers, eq_comm]
  | cons e es ih =>
      obtain ⟨k, v⟩ := e
      simp only [toJsonMembers, bind_eq_ok, ih, List.forall₂_cons_left_iff]
      constructor
      · rintro ⟨name, hname, j, hj, ms', hms, h⟩
        exact ⟨(name, j), ms', ⟨hname, hj⟩, hms, (Except.ok.inj h).symm⟩
      · rintro ⟨⟨name, j⟩, ms', ⟨hname, hj⟩, hms, rfl⟩
        exact ⟨name, hname, j, hj, ms', hms, rfl⟩

theorem encode_eq_ok {v : Value} {j : Json} : v.encode = .ok j ↔ ∃ t, v.textual = .ok t ∧ t.toJson = .ok j := by
  rw [encode, bind_eq_ok]

theorem encode_list_eq_ok {xs : List Value} {j : Json} :
    encode (list xs) = .ok j ↔ ∃ js, j = .array js ∧ List.Forall₂ (fun x j => encode x = .ok j) xs js := by
  simp only [encode_eq_ok, textual_list_eq_ok, ← forall₂_forall₂_iff]
  constructor
  · rintro ⟨_, ⟨ys, rfl, hxs⟩, hj⟩
    rw [toJson, map_eq_ok] at hj
    obtain ⟨js, hjs, rfl⟩ := hj
    exact ⟨js, rfl, ys, hxs, toJsonItems_eq_ok.mp hjs⟩
  · rintro ⟨js, rfl, ys, hxs, hys⟩
    refine ⟨list ys, ⟨ys, rfl, hxs⟩, ?_⟩
    rw [toJson, toJsonItems_eq_ok.mpr hys, map_ok]

/-- A tuple has the JSON form of the list of its items. -/
theorem encode_tuple (xs : List Value) : encode (tuple xs) = encode (list xs) := by
  rw [encode, encode, textual, textual]

/-! ### Keys -/

/-- Whatever can name a member can be the key of a map. -/
theorem unhashable?_of_memberName {k : Value} {name : String} (h : memberName k = .ok name) :
    k.unhashable? = none := by
  cases k with
  | list => cases h
  | tuple => cases h
  | map => cases h
  | octets => cases h
  | record => cases h
  | _ => rfl

/-- Octets that have a view have the text that they read as. -/
theorem readOctets_of_textual {holder : OctetHolder} {bs : List UInt8} {t : Value}
    (h : textual (octets holder bs) = .ok t) : t = readOctets holder bs ∧ ∃ s, t = text s := by
  obtain ⟨s, rfl, rfl⟩ := textual_octets_eq_ok.mp h
  rw [readOctets, Utf8.decode_encode]
  exact ⟨rfl, s, rfl⟩

/-- A view that can name a member is the key with its octets read as text. -/
theorem decodedKey_of_named {k k' : Value} {name : String} (h : k.textual = .ok k') (hname : memberName k' = .ok name) :
    k' = decodedKey k := by
  cases k with
  | octets holder bs => exact (readOctets_of_textual h).1
  | list xs =>
      obtain ⟨ys, rfl, -⟩ := textual_list_eq_ok.mp h
      cases hname
  | tuple xs =>
      obtain ⟨ys, rfl, -⟩ := textual_tuple_eq_ok.mp h
      cases hname
  | map es =>
      obtain ⟨new, rfl, -⟩ := textual_map_eq_ok h
      cases hname
  | _ => exact (Except.ok.inj h).symm

/-- A key that can name a member once its octets are read is its own view then. -/
theorem textual_of_named {k : Value} {name : String} (hname : memberName (decodedKey k) = .ok name) :
    k.textual = .ok (decodedKey k) := by
  cases k with
  | octets holder bs =>
      change textual (octets holder bs) = .ok (readOctets holder bs)
      change memberName (readOctets holder bs) = .ok name at hname
      rw [readOctets] at hname ⊢
      split at hname
      · rename_i s hdecode
        exact textual_octets_eq_ok.mpr ⟨s, rfl, Utf8.decode_eq_ok.mp hdecode⟩
      · cases hname
  | list => cases hname
  | tuple => cases hname
  | map => cases hname
  | record => cases hname
  | _ => rfl

/-! ### Maps -/

/-- Entries that have views, with keys that can be keys and differ, have their views one after another. -/
theorem textualEntries_of_views {done es new : Entries}
    (h : List.Forall₂ (fun e n => textual e.1 = .ok n.1 ∧ textual e.2 = .ok n.2) es new)
    (hkeys : ∀ n ∈ new, n.1.unhashable? = none) (hdistinct : Entries.Distinct (done ++ new)) :
    textualEntries done es = .ok (done ++ new) := by
  induction h generalizing done with
  | nil => rw [textualEntries, List.append_nil]
  | @cons e n es new he _ ih =>
      obtain ⟨hkey, hrest⟩ := List.forall_mem_cons.mp hkeys
      have hnew : newKey done n.1 = .ok () := by
        rw [newKey_eq_ok]
        exact ⟨hkey, fun d hd => (List.pairwise_append.mp hdistinct).2.2 d hd n List.mem_cons_self⟩
      obtain ⟨k, v⟩ := e
      rw [textualEntries, he.1, bind_ok, hnew, bind_ok, he.2, bind_ok, ih hrest (by simpa using hdistinct)]
      simp

/-- The keys of a map with their octets read as text, as far as they read. -/
def decodedKeys (es : Entries) : Entries := es.map fun e => (decodedKey e.1, e.2)

/-- An entry becomes a member by its view exactly if its key names the member and its value has a JSON form. -/
theorem encode_entry_iff {e : Value × Value} {m : String × Json} :
    (∃ n : Value × Value, (textual e.1 = .ok n.1 ∧ textual e.2 = .ok n.2) ∧
      memberName n.1 = .ok m.1 ∧ toJson n.2 = .ok m.2) ↔
    memberName (decodedKey e.1) = .ok m.1 ∧ encode e.2 = .ok m.2 := by
  rw [encode_eq_ok]
  constructor
  · rintro ⟨⟨k', t⟩, ⟨hkey, hval⟩, hname, hjson⟩
    obtain rfl := decodedKey_of_named hkey hname
    exact ⟨hname, t, hval, hjson⟩
  · rintro ⟨hname, t, hval, hjson⟩
    exact ⟨(decodedKey e.1, t), ⟨textual_of_named hname, hval⟩, hname, hjson⟩

/-- The keys of the views of entries that become members are the decoded keys. -/
theorem keys_of_views {es new : Entries} {ms : List (String × Json)}
    (hviews : List.Forall₂ (fun e n => textual e.1 = .ok n.1 ∧ textual e.2 = .ok n.2) es new)
    (hnames : List.Forall₂ (fun n m => memberName n.1 = .ok m.1 ∧ toJson n.2 = .ok m.2) new ms) :
    new.map (·.1) = (decodedKeys es).map (·.1) := by
  induction hviews generalizing ms with
  | nil => rfl
  | cons he _ ih =>
      cases hnames with
      | cons hn hnames =>
          rw [List.map_cons, ih hnames, decodedKey_of_named he.1 hn.1]
          rfl

theorem encode_map_eq_ok {es : Entries} {j : Json} :
    encode (map es) = .ok j ↔ ∃ ms, j = .object ms ∧ (decodedKeys es).Distinct ∧
      List.Forall₂ (fun e m => memberName (decodedKey e.1) = .ok m.1 ∧ encode e.2 = .ok m.2) es ms := by
  constructor
  · intro h
    obtain ⟨t, ht, hj⟩ := encode_eq_ok.mp h
    obtain ⟨new, rfl, hdistinct, hviews⟩ := textual_map_eq_ok ht
    rw [toJson, map_eq_ok] at hj
    obtain ⟨ms, hms, rfl⟩ := hj
    have hnames := toJsonMembers_eq_ok.mp hms
    refine ⟨ms, rfl, Entries.distinct_of_keys (keys_of_views hviews hnames) hdistinct, ?_⟩
    exact (forall₂_forall₂_iff.mp ⟨new, hviews, hnames⟩).imp fun _ _ => encode_entry_iff.mp
  · rintro ⟨ms, rfl, hdistinct, hms⟩
    -- the members tell the views, whose keys are the decoded keys and so differ
    obtain ⟨new, hviews, hnames⟩ := forall₂_forall₂_iff.mpr (hms.imp fun _ _ => encode_entry_iff.mpr)
    have hhashable : ∀ n ∈ new, n.1.unhashable? = none := by
      intro n hn
      obtain ⟨m, -, hname, -⟩ := exists_mem_of_forall₂ hnames.flip hn
      exact unhashable?_of_memberName hname
    have htextual : textualEntries [] es = .ok ([] ++ new) :=
      textualEntries_of_views hviews hhashable (Entries.distinct_of_keys (keys_of_views hviews hnames).symm hdistinct)
    rw [encode_eq_ok]
    refine ⟨map new, by rw [textual, htextual]; rfl, ?_⟩
    rw [toJson, toJsonMembers_eq_ok.mpr hnames, map_ok]

/-! ### Values that have a JSON form -/

/-- A value without parts that has a JSON form, and may also name a member: null, a truth value, text, octets that read
as text, an integer of no more digits than may be written, a finite float. -/
def isWritableScalar : Value → Bool
  | null | bool _ | text _ => true
  | int n => !exceedsDigitLimit n
  | float x => x.isFinite
  | octets _ bs => match Utf8.decode bs with
    | .ok _ => true
    | .error _ => false
  | _ => false

/-- What a part of a value must be for the value to have a JSON form. -/
def isWritablePart : Value → Bool
  | list _ | tuple _ => true
  | map es => es.all (·.1.isWritableScalar) && decide (decodedKeys es).Distinct
  | v => v.isWritableScalar

/-- All leaves can be written, all keys of all maps can name members, and no two keys of one map are equal once octets
are read as text. -/
def isWritable (v : Value) : Bool := v.every isWritablePart

theorem memberName_iff {k : Value} : (∃ name, memberName (decodedKey k) = .ok name) ↔ k.isWritableScalar = true := by
  cases k with
  | bool b => cases b <;> simp [decodedKey, viewKey, memberName, isWritableScalar]
  | int n =>
      simp only [decodedKey, viewKey, memberName, isWritableScalar, checkDigits]
      cases exceedsDigitLimit n <;> simp
  | float x =>
      simp only [decodedKey, viewKey, memberName, isWritableScalar, checkFinite]
      cases x.isFinite <;> simp
  | octets holder bs =>
      simp only [decodedKey, viewKey, readOctets, isWritableScalar]
      cases Utf8.decode bs <;> simp [memberName]
  | _ => simp [decodedKey, viewKey, memberName, isWritableScalar]

theorem isWritable_list {xs : List Value} : isWritable (list xs) = true ↔ ∀ x ∈ xs, x.isWritable = true := by
  rw [isWritable, every_list]
  exact and_iff_right rfl

theorem isWritable_map {es : Entries} :
    isWritable (map es) = true ↔
      (decodedKeys es).Distinct ∧ ∀ e ∈ es, e.1.isWritableScalar = true ∧ e.2.isWritable = true := by
  have hkey {k : Value} (h : k.isWritableScalar = true) : k.isWritable = true := by
    cases k with
    | list => cases h
    | tuple => cases h
    | map => cases h
    | record => cases h
    | _ => exact h
  rw [isWritable, every_map, isWritablePart, Bool.and_eq_true, List.all_eq_true, decide_eq_true_eq]
  constructor
  · rintro ⟨⟨hkeys, hdistinct⟩, hparts⟩
    exact ⟨hdistinct, fun e he => ⟨hkeys e he, (hparts e he).2⟩⟩
  · rintro ⟨hdistinct, hparts⟩
    exact ⟨⟨fun e he => (hparts e he).1, hdistinct⟩, fun e he => ⟨hkey (hparts e he).1, (hparts e he).2⟩⟩

theorem encode_list_iff {xs : List Value} (ih : ∀ x ∈ xs, (∃ j, x.encode = .ok j) ↔ x.isWritable = true) :
    (∃ j, encode (list xs) = .ok j) ↔ isWritable (list xs) = true := by
  simp only [encode_list_eq_ok]
  calc (∃ j js, j = Json.array js ∧ List.Forall₂ (fun x j => encode x = .ok j) xs js)
      ↔ ∃ js, List.Forall₂ (fun x j => encode x = .ok j) xs js := by
        constructor
        · rintro ⟨j, js, -, h⟩
          exact ⟨js, h⟩
        · rintro ⟨js, h⟩
          exact ⟨_, js, rfl, h⟩
    _ ↔ ∀ x ∈ xs, ∃ j, encode x = .ok j := exists_forall₂_iff
    _ ↔ ∀ x ∈ xs, x.isWritable = true := forall₂_congr ih
    _ ↔ isWritable (list xs) = true := isWritable_list.symm

theorem encode_map_iff {es : Entries} (ih : ∀ e ∈ es, (∃ j, e.2.encode = .ok j) ↔ e.2.isWritable = true) :
    (∃ j, encode (map es) = .ok j) ↔ isWritable (map es) = true := by
  have hentry (e : Value × Value) (he : e ∈ es) :
      (∃ m : String × Json, memberName (decodedKey e.1) = .ok m.1 ∧ encode e.2 = .ok m.2) ↔
        e.1.isWritableScalar = true ∧ e.2.isWritable = true := by
    rw [← memberName_iff, ← ih e he]
    constructor
    · rintro ⟨m, hname, hj⟩
      exact ⟨⟨_, hname⟩, _, hj⟩
    · rintro ⟨⟨name, hname⟩, j, hj⟩
      exact ⟨(name, j), hname, hj⟩
  rw [isWritable_map, ← forall₂_congr hentry, ← exists_forall₂_iff]
  simp only [encode_map_eq_ok]
  constructor
  · rintro ⟨j, ms, -, hdistinct, h⟩
    exact ⟨hdistinct, ms, h⟩
  · rintro ⟨hdistinct, ms, h⟩
    exact ⟨_, ms, rfl, hdistinct, h⟩

/-- A value has a JSON form exactly if each of its parts is as it must be. -/
theorem encode_iff {v : Value} : (∃ j, v.encode = .ok j) ↔ v.isWritable = true := by
  induction v with
  | int n =>
      change _ ↔ (!exceedsDigitLimit n) = true
      simp only [encode_eq_ok, textual, Except.ok.injEq, exists_eq_left', toJson, checkDigits]
      cases exceedsDigitLimit n <;> simp
  | float x =>
      change _ ↔ x.isFinite = true
      simp only [encode_eq_ok, textual, Except.ok.injEq, exists_eq_left', toJson, checkFinite]
      cases x.isFinite <;> simp
  | octets holder bs =>
      change _ ↔ isWritableScalar (octets holder bs) = true
      simp only [encode, textual, decodeText, isWritableScalar]
      cases Utf8.decode bs <;> simp [toJson]
  | list xs ih => exact encode_list_iff ih
  | tuple xs ih =>
      have hsame : isWritable (tuple xs) = isWritable (list xs) := rfl
      rw [encode_tuple, hsame]
      exact encode_list_iff ih
  | map es ih => exact encode_map_iff fun e he => (ih e he).2
  | _ => simp [encode, textual, toJson, isWritable, every, isWritablePart, isWritableScalar]

/-- A value has a JSON text exactly if each of its parts is as it must be. -/
theorem dump_iff {v : Value} : (∃ s, v.dump = .ok s) ↔ v.isWritable = true := by
  rw [← encode_iff]
  simp only [dump, map_eq_ok]
  constructor
  · rintro ⟨s, j, hj, -⟩
    exact ⟨j, hj⟩
  · rintro ⟨j, hj⟩
    exact ⟨_, j, hj, rfl⟩

example : isWritable (.map [(.text "k", .null), (.octets .fixed [0x6B], .null)]) = false := by decide +kernel
example : isWritable (.map [(.text "1", .null), (.int 1, .null)]) = true := by decide +kernel

end Value

end DaemonClient
