import DaemonClient.Proofs.Query

/-! The form of text is a matter of representation: the same plain data is accepted in all three forms or in none, and
what is made of it reads as the same characters. The three checks are run side by side (`Alike`), and the relation on
their results says what each result is once its octets are read. Only text that is kept as given can have two keys of
one map that read alike; those are refused when they are written, where the other forms keep the last value. -/

namespace DaemonClient
open Outcome

/-! ### Checks side by side -/

/-- Three checks with results that are related, or with problems of which the first two checks find theirs at the same
places in the same order. -/
inductive Alike {α : Type} (R : α → α → α → Prop) : Check α → Check α → Check α → Prop
  | ok {a b c : α} (h : R a b c) : Alike R (.ok a) (.ok b) (.ok c)
  | error {ps qs rs : List Problem} (h : ps.map (·.path) = qs.map (·.path)) :
    Alike R (.error ps) (.error qs) (.error rs)

namespace Alike

variable {α β γ : Type} {R : α → α → α → Prop} {S : β → β → β → Prop} {T : γ → γ → γ → Prop}

theorem fail (kind kind' kind'' : ProblemKind) : Alike R (Check.fail kind) (Check.fail kind') (Check.fail kind'') :=
  error rfl

/-- One check side by side with itself. -/
theorem self {x : Check α} (h : ∀ a, x = .ok a → R a a a) : Alike R x x x := by
  cases x with
  | ok a => exact ok (h a rfl)
  | error ps => exact error rfl

theorem under (l : Location) {x y z : Check α} (h : Alike R x y z) :
    Alike R (Check.under l x) (Check.under l y) (Check.under l z) := by
  cases h with
  | ok h => exact ok h
  | @error ps qs rs h =>
      refine error ?_
      have hcons (ps : List Problem) :
          (ps.map fun p => (⟨p.kind, l :: p.path⟩ : Problem)).map (·.path) = (ps.map (·.path)).map (l :: ·) := by
        simp
      rw [hcons, hcons, h]

theorem map {f f' f'' : α → β} (hf : ∀ a b c, R a b c → S (f a) (f' b) (f'' c)) {x y z : Check α}
    (h : Alike R x y z) : Alike S (f <$> x) (f' <$> y) (f'' <$> z) := by
  cases h with
  | ok h => exact ok (hf _ _ _ h)
  | error h => exact error h

theorem both {f f' f'' : α → β → γ} (hf : ∀ a b c, R a b c → ∀ a' b' c', S a' b' c' → T (f a a') (f' b b') (f'' c c'))
    {x y z : Check α} {x' y' z' : Check β} (h : Alike R x y z) (h' : Alike S x' y' z') :
    Alike T (Check.both f x x') (Check.both f' y y') (Check.both f'' z z') := by
  cases h with
  | ok h =>
      cases h' with
      | ok h' => exact ok (hf _ _ _ h _ _ _ h')
      | error h' => exact error (by simpa [Check.problems] using h')
  | error h =>
      cases h' with
      | ok h' => exact error (by simpa [Check.problems] using h)
      | error h' => exact error (by simp [Check.problems, h, h'])

end Alike

/-! ### Data of any program -/

namespace Value

/-- Data made of null, truth values, integers, text, octets that read as text, lists, tuples and maps, with keys that
a map can have, each once. -/
def isPlain : Value → Bool := every fun
  | float _ => false
  | record .. => false
  | foreign _ => false
  | octets holder bs => decide (holder ≠ .view) && (Utf8.decode bs).isOk
  | map es => decide (Entries.Distinct es) && es.all fun e => e.1.unhashable?.isNone
  | _ => true

theorem noRecords_of_isPlain {v : Value} (h : v.isPlain = true) : v.noRecords = true := by
  refine every_mono (fun v hv => ?_) h
  cases v <;> first | rfl | cases hv

theorem decode_of_isPlain {holder : OctetHolder} {bs : List UInt8} (h : (octets holder bs).isPlain = true) :
    holder ≠ .view ∧ ∃ s, bs = Utf8.encode s := by
  have htest : (decide (holder ≠ .view) && (Utf8.decode bs).isOk) = true := h
  rw [Bool.and_eq_true, decide_eq_true_eq] at htest
  refine ⟨htest.1, ?_⟩
  cases hd : Utf8.decode bs with
  | ok s => exact ⟨s, Utf8.decode_eq_ok.mp hd⟩
  | error e => rw [hd] at htest; cases htest.2

theorem keysOnce_of_isPlain {v : Value} (h : v.isPlain = true) : v.keysOnce = true := by
  refine every_mono (fun v hv => ?_) h
  cases v <;> first | rfl | cases hv | exact (Bool.and_eq_true _ _ ▸ hv).1

/-- Plain maps have each key once. -/
theorem merged_of_isPlain {v : Value} (h : v.isPlain = true) : v.merged = v :=
  merged_of_keysOnce (keysOnce_of_isPlain h)

end Value

/-! ### Merging and reading -/

namespace Entries

theorem insert_map {f g : Value → Value} {done : Entries} {k v : Value}
    (hf : ∀ e ∈ done, (f k).same (f e.1) = k.same e.1) :
    insert (done.map fun e => (f e.1, g e.2)) (f k) (g v) = (insert done k v).map fun e => (f e.1, g e.2) := by
  induction done with
  | nil => rfl
  | cons e done ih =>
      obtain ⟨he, hdone⟩ := List.forall_mem_cons.mp hf
      rw [List.map_cons, insert, insert, he, ih hdone]
      split <;> rfl

/-- Merging does not see a change of keys that keeps them as equal or different as they are. -/
theorem ofList_map {f g : Value → Value} {es : Entries}
    (hf : ∀ e ∈ es, ∀ e' ∈ es, (f e.1).same (f e'.1) = e.1.same e'.1) :
    ofList (es.map fun e => (f e.1, g e.2)) = (ofList es).map fun e => (f e.1, g e.2) := by
  have hfold (done rest : Entries) (hdone : ∀ e ∈ done, ∃ e' ∈ es, e.1 = e'.1) (hrest : ∀ e ∈ rest, e ∈ es) :
      (rest.map fun e => (f e.1, g e.2)).foldl (fun es e => insert es e.1 e.2) (done.map fun e => (f e.1, g e.2)) =
        (rest.foldl (fun es e => insert es e.1 e.2) done).map fun e => (f e.1, g e.2) := by
    induction rest generalizing done with
    | nil => rfl
    | cons r rest ih =>
        obtain ⟨hr, hrest⟩ := List.forall_mem_cons.mp hrest
        rw [List.map_cons, List.foldl_cons, List.foldl_cons, insert_map, ih _ ?_ hrest]
        · exact forall_insert (P := fun e => ∃ e' ∈ es, e.1 = e'.1) hdone ⟨r, hr, rfl⟩ hdone
        · intro e he
          obtain ⟨e', he', hkey⟩ := hdone e he
          rw [hkey, hf r hr e' he']
  exact hfold [] es (by simp) fun e he => he

end Entries

namespace Value

/-- Results of one check in the three forms of text: the one in characters is the one in octets read, and the one with
text as given read, its coinciding keys merged. -/
structure Agree (a b g : Value) : Prop where
  octets : a = b.decoded.recast .characters
  given : a = g.decoded.condensed.recast .characters

structure AgreeItems (as bs gs : List Value) : Prop where
  octets : as = bs.map fun b => b.decoded.recast .characters
  given : as = gs.map fun g => g.decoded.condensed.recast .characters

structure AgreeFields (as bs gs : Named) : Prop where
  octets : as = bs.map fun b => (b.1, b.2.decoded.recast .characters)
  given : as = gs.map fun g => (g.1, g.2.decoded.condensed.recast .characters)

/-- Agreement of keys: octets are those of a text, and a key that is kept as given is the key itself. -/
structure AgreeKey (k a b g : Value) : Prop where
  octets : a = decodedKey b
  given : a = decodedKey g
  kept : g = k
  encoded : ∃ s, b = .octets .fixed (Utf8.encode s)

/-- Agreement entry by entry, before entries are merged. -/
structure AgreeEntries (es as bs gs : Entries) : Prop where
  octets : as = bs.map fun b => (decodedKey b.1, b.2.decoded.recast .characters)
  given : as = gs.map fun g => (decodedKey g.1, g.2.decoded.condensed.recast .characters)
  kept : gs.map (·.1) = es.map (·.1)
  encoded : ∀ b ∈ bs, ∃ s, b.1 = .octets .fixed (Utf8.encode s)

theorem AgreeItems.list {as bs gs : List Value} (h : AgreeItems as bs gs) : Agree (list as) (list bs) (list gs) :=
  ⟨by simp [h.octets, Function.comp_def], by simp [h.given, Function.comp_def]⟩

theorem AgreeFields.record {kind : RecordKind} {as bs gs : Named} (h : AgreeFields as bs gs) :
    Agree (record kind .characters as []) (record kind .octets bs []) (record kind .given gs []) :=
  ⟨by simp [h.octets, Function.comp_def], by simp [h.given, Function.comp_def]⟩

theorem decodedKey_encode (s : String) : decodedKey (.octets .fixed (Utf8.encode s)) = text s := by
  change readOctets .fixed (Utf8.encode s) = text s
  rw [readOctets, Utf8.decode_encode]

theorem AgreeEntries.map {es as bs gs : Entries} (hes : es.Distinct) (h : AgreeEntries es as bs gs) :
    Agree (map (Entries.ofList as)) (map (Entries.ofList bs)) (map (Entries.ofList gs)) := by
  have hgs : gs.Distinct := Entries.distinct_of_keys h.kept.symm hes
  constructor
  · have hkeys : ∀ b ∈ bs, ∀ b' ∈ bs, (decodedKey b.1).same (decodedKey b'.1) = b.1.same b'.1 := by
      intro b hb b' hb'
      obtain ⟨s, hs⟩ := h.encoded b hb
      obtain ⟨s', hs'⟩ := h.encoded b' hb'
      rw [hs, hs', decodedKey_encode, decodedKey_encode, same_text, same, Bool.eq_iff_iff, beq_iff_eq, beq_iff_eq]
      exact ⟨congrArg Utf8.encode, fun heq => Utf8.encode_injective heq⟩
    rw [h.octets, Entries.ofList_map (g := fun b => b.decoded.recast .characters) hkeys]
    simp [Function.comp_def]
  · rw [Entries.ofList_of_distinct hgs, h.given]
    have hmerge (read : Entries) : Entries.ofList (read.map fun e => (e.1, e.2.recast .characters)) =
        (Entries.ofList read).map fun e => (e.1, e.2.recast .characters) :=
      Entries.ofList_map (f := fun k => k) fun _ _ _ _ => rfl
    have hread := hmerge (gs.map fun g => (decodedKey g.1, g.2.decoded.condensed))
    rw [List.map_map] at hread
    simp [Function.comp_def] at hread ⊢
    rw [hread]

end Value

/-! ### Plain data in the three forms -/

namespace Value

/-- A default that is the same in every form of text. -/
def isBare : Value → Bool
  | null => true
  | bool _ => true
  | list [] => true
  | map [] => true
  | _ => false

theorem agree_of_isBare {v : Value} (h : v.isBare = true) : Agree v v v := by
  unfold isBare at h
  split at h
  case h_5 => cases h
  all_goals exact ⟨rfl, rfl⟩

end Value

namespace Check
open Value

/-- What text is in the three forms: itself, its octets, and itself. -/
theorem agree_text (s : String) : Agree (.text s) (.octets .fixed (Utf8.encode s)) (.text s) := by
  have hread : decoded (.octets .fixed (Utf8.encode s)) = .text s := decodedKey_encode s
  exact ⟨by rw [hread]; rfl, rfl⟩

/-- What octets are in the three forms: the text they are, themselves, and themselves. -/
theorem agree_octets (s : String) :
    Agree (.text s) (.octets .fixed (Utf8.encode s)) (.octets .fixed (Utf8.encode s)) := by
  have hread : decoded (.octets .fixed (Utf8.encode s)) = .text s := decodedKey_encode s
  exact ⟨by rw [hread]; rfl, by rw [hread]; rfl⟩

theorem textOf_encode (s : String) : textOf (Utf8.encode s) = .ok (.text s) :=
  textOf_eq_ok.mpr ⟨s, rfl, Utf8.decode_encode s⟩

theorem text_alike {v : Value} (hv : v.isPlain = true) :
    Alike Agree (text .characters v) (text .octets v) (text .given v) := by
  cases v with
  | text s => exact .ok (agree_text s)
  | octets holder bs =>
      obtain ⟨hview, s, rfl⟩ := decode_of_isPlain hv
      cases holder with
      | view => exact absurd rfl hview
      | fixed =>
          have hread : text .characters (.octets .fixed (Utf8.encode s)) = .ok (.text s) := textOf_encode s
          rw [hread]
          exact .ok (agree_octets s)
      | buffer =>
          have hread : text .characters (.octets .buffer (Utf8.encode s)) = .ok (.text s) := textOf_encode s
          have hgiven : text .given (.octets .buffer (Utf8.encode s)) = .ok (.text s) := by
            simp only [text, Utf8.decode_encode]
          rw [hread, hgiven]
          exact .ok (agree_text s)
  | _ => exact .error rfl

/-- A key that a map can have is kept as it is where text is kept as given. -/
theorem key_alike {k : Value} (hk : k.isPlain = true) (hhash : k.unhashable? = none) :
    Alike (AgreeKey k) (text .characters k) (text .octets k) (text .given k) := by
  cases k with
  | text s => exact .ok ⟨(decodedKey_encode s).symm, rfl, rfl, s, rfl⟩
  | octets holder bs =>
      obtain ⟨hview, s, rfl⟩ := decode_of_isPlain hk
      cases holder with
      | view => exact absurd rfl hview
      | buffer => cases hhash
      | fixed =>
          have hread : text .characters (.octets .fixed (Utf8.encode s)) = .ok (.text s) := textOf_encode s
          rw [hread]
          exact .ok ⟨(decodedKey_encode s).symm, (decodedKey_encode s).symm, rfl, s, rfl⟩
  | _ => exact .error rfl

theorem items_alike {f f' f'' : Value → Check Value} {xs : List Value}
    (h : ∀ x ∈ xs, Alike Agree (f x) (f' x) (f'' x)) (i : Nat) :
    Alike AgreeItems (items f i xs) (items f' i xs) (items f'' i xs) := by
  induction xs generalizing i with
  | nil => exact .ok ⟨rfl, rfl⟩
  | cons x xs ih =>
      obtain ⟨hx, hxs⟩ := List.forall_mem_cons.mp h
      refine .both ?_ (hx.under _) (ih hxs _)
      rintro a b c hhead as bs cs hrest
      exact ⟨by rw [hhead.octets, hrest.octets]; rfl, by rw [hhead.given, hrest.given]; rfl⟩

theorem entries_alike {f f' f'' : Value → Check Value} {es : Entries}
    (hkeys : ∀ e ∈ es, e.1.isPlain = true ∧ e.1.unhashable? = none)
    (h : ∀ e ∈ es, Alike Agree (f e.2) (f' e.2) (f'' e.2)) :
    Alike (AgreeEntries es) (entries .characters f es) (entries .octets f' es) (entries .given f'' es) := by
  induction es with
  | nil => exact .ok ⟨rfl, rfl, rfl, by simp⟩
  | cons e es ih =>
      obtain ⟨hkey, hkeys⟩ := List.forall_mem_cons.mp hkeys
      obtain ⟨he, hes⟩ := List.forall_mem_cons.mp h
      have hpair : Alike (fun a b c : Value × Value => AgreeKey e.1 a.1 b.1 c.1 ∧ Agree a.2 b.2 c.2)
          (both Prod.mk (key .characters e.1) (under (Location.ofKey e.1) (f e.2)))
          (both Prod.mk (key .octets e.1) (under (Location.ofKey e.1) (f' e.2)))
          (both Prod.mk (key .given e.1) (under (Location.ofKey e.1) (f'' e.2))) :=
        .both (fun _ _ _ hk _ _ _ hv => ⟨hk, hv⟩) (((key_alike hkey.1 hkey.2).under _).under _) (he.under _)
      refine .both ?_ hpair (ih hkeys hes)
      rintro a b c ⟨hk, hv⟩ as bs cs hrest
      refine ⟨?_, ?_, ?_, List.forall_mem_cons.mpr ⟨hk.encoded, hrest.encoded⟩⟩
      · rw [List.map_cons, ← hrest.octets, ← hk.octets, ← hv.octets]
      · rw [List.map_cons, ← hrest.given, ← hk.given, ← hv.given]
      · rw [List.map_cons, List.map_cons, hrest.kept, hk.kept]

end Check

namespace Shape

/-- A default that is the same in every form of text, or plain data that is looked at like given data. -/
def defaultIsPlain (d : Slot × Shape) : Bool :=
  match d.1.fallback with
  | some ⟨v, true⟩ => v.isBare
  | some ⟨v, false⟩ => v.isPlain
  | none => true

/-- All defaults of a shape are the same in every form of text, or plain data. -/
def defaultsArePlain : Shape → Bool := every fun _ fields => fields.all defaultIsPlain

end Shape

theorem RecordKind.defaultsArePlain_shape {kind : RecordKind} (h : kind.isReport = false) :
    kind.shape.defaultsArePlain = true := by
  cases kind <;> cases h <;> decide

namespace Value

theorem isPlain_items {v : Value} {xs : List Value} (h : v.isPlain = true) (hitems : v.items? = some xs) :
    ∀ x ∈ xs, x.isPlain = true := by
  cases v with
  | list ys =>
      obtain rfl := Option.some.inj hitems
      exact (every_list.mp h).2
  | tuple ys =>
      obtain rfl := Option.some.inj hitems
      exact (every_tuple.mp h).2
  | octets holder bs =>
      cases holder with
      | view => exact absurd rfl (decode_of_isPlain h).1
      | _ => cases hitems
  | record => cases h
  | _ => cases hitems

theorem isPlain_map {es : Entries} (h : (map es).isPlain = true) :
    es.Distinct ∧ ∀ e ∈ es, (e.1.isPlain = true ∧ e.1.unhashable? = none) ∧ e.2.isPlain = true := by
  obtain ⟨hself, hes⟩ := every_map.mp h
  simp only [Bool.and_eq_true, decide_eq_true_eq, List.all_eq_true, Option.isNone_iff_eq_none] at hself
  exact ⟨hself.1, fun e he => ⟨⟨(hes e he).1, hself.2 e he⟩, (hes e he).2⟩⟩

end Value

namespace Shape
open Value

theorem checkField_alike {es : Entries} (hes : ∀ e ∈ es, e.2.isPlain = true) {d : Slot × Shape}
    (hdefault : defaultIsPlain d = true)
    (ih : ∀ v, v.isPlain = true →
      Alike Agree (check .characters d.2 v) (check .octets d.2 v) (check .given d.2 v)) :
    Alike Agree (checkField .characters es d) (checkField .octets es d) (checkField .given es d) := by
  unfold checkField
  cases hfind : d.1.find? es with
  | some given =>
      obtain ⟨name, v⟩ := given
      obtain ⟨e, he, rfl⟩ := Slot.mem_of_find? hfind
      have hplain : (d.1.normalise e.2).isPlain = true := by
        unfold Slot.normalise
        split
        · split
          · rfl
          · rw [merged_of_isPlain (hes e he)]
            exact hes e he
        · exact hes e he
      exact (ih _ hplain).under _
  | none =>
      rw [defaultIsPlain] at hdefault
      cases hfallback : d.1.fallback with
      | none => exact .error rfl
      | some fallback =>
          obtain ⟨v, ready⟩ := fallback
          rw [hfallback] at hdefault
          cases ready with
          | true => exact .ok (agree_of_isBare hdefault)
          | false => exact (ih v hdefault).under _

theorem checkFields_alike {fields : List (Slot × Shape)} {es : Entries}
    (h : ∀ d ∈ fields, Alike Agree (checkField .characters es d) (checkField .octets es d) (checkField .given es d)) :
    Alike AgreeFields (checkFields .characters fields es) (checkFields .octets fields es)
      (checkFields .given fields es) := by
  induction fields with
  | nil => exact .ok ⟨rfl, rfl⟩
  | cons d rest ih =>
      obtain ⟨hd, hrest⟩ := List.forall_mem_cons.mp h
      rw [checkFields_cons, checkFields_cons, checkFields_cons]
      refine .both ?_ hd (ih hrest)
      rintro a b c hhead as bs cs htail
      exact ⟨by rw [hhead.octets, htail.octets]; rfl, by rw [hhead.given, htail.given]; rfl⟩

/-- **Plain data is checked alike in the three forms of text.** -/
theorem check_alike {s : Shape} (hs : s.defaultsArePlain = true) {v : Value} (hv : v.isPlain = true) :
    Alike Agree (check .characters s v) (check .octets s v) (check .given s v) := by
  induction s generalizing v with
  | flag =>
      apply Alike.self
      intro r hr
      obtain ⟨b, rfl⟩ := Check.flag_eq_ok hr
      exact ⟨rfl, rfl⟩
  | count =>
      apply Alike.self
      intro r hr
      obtain ⟨n, rfl⟩ := Check.count_eq_ok hr
      exact ⟨rfl, rfl⟩
  | text =>
      rw [check, check, check]
      exact Check.text_alike hv
  | optional s ih =>
      cases v with
      | null => exact .ok ⟨rfl, rfl⟩
      | _ => exact ih hs hv
  | list s ih =>
      rw [check, check, check]
      cases hitems : v.items? with
      | none => exact .error rfl
      | some xs =>
          refine .map (fun _ _ _ h => h.list) (Check.items_alike (fun x hx => ?_) 0)
          exact ih hs (isPlain_items hv hitems x hx)
  | map s ih =>
      cases v with
      | map es =>
          obtain ⟨hdistinct, hes⟩ := isPlain_map hv
          rw [check, check, check]
          refine .map (fun _ _ _ h => AgreeEntries.map hdistinct h) ?_
          exact Check.entries_alike (fun e he => (hes e he).1) fun e he => ih hs (hes e he).2
      | _ => exact .error rfl
  | record kind fields ih =>
      obtain ⟨hdefault, hdefaults⟩ := every_record.mp hs
      rw [List.all_eq_true] at hdefault
      cases v with
      | map es =>
          rw [check, check, check]
          refine .map (fun _ _ _ h => h.record) (checkFields_alike fun d hd => ?_)
          refine checkField_alike (fun e he => ?_) (hdefault d hd) fun v hv => ih d hd (hdefaults d hd) hv
          obtain ⟨-, hes⟩ := isPlain_map hv
          split at he
          · exact (hes e (List.mem_of_mem_filter he)).2
          · exact (hes e he).2
      | record => cases hv
      | _ => exact .error rfl

end Shape

/-! ### What is sent -/

namespace Value

theorem dump_congr {v w : Value} (h : v.textual = w.textual) : v.dump = w.dump := by
  rw [dump, dump, encode, encode, h]

/-- A body does not tell octets from the text that they are, nor the form of text. -/
theorem toBody_decoded (r : Value) (form : TextForm) : (r.decoded.recast form).toBody = r.toBody := by
  rw [toBody, toBody, serialize, serialize]
  refine congrArg _ (dump_congr ?_)
  rw [toWire, toWire, wireIn_recast, textual_wireIn_decoded]

theorem field?_decoded {r : Value} {attr : String} {x : Value} (h : r.field? attr = some x) (form : TextForm) :
    (r.decoded.recast form).field? attr = some (x.decoded.recast form) := by
  cases r with
  | record kind form' fs ns =>
      have hlookup : fs.lookup attr = some x := h
      have hview : (fs.map fun f => (f.1, f.2.decoded)).map (fun f => (f.1, f.2.recast form)) =
          fs.map fun f => (f.1, f.2.decoded.recast form) := by
        rw [List.map_map]
        rfl
      rw [decoded_record, recast_record, hview, field?, RecordKind.lookup_map fs fun v => v.decoded.recast form,
        hlookup, Option.map_some]
  | _ => cases h

theorem textual_decoded {form : TextForm} {s : Shape} (hs : s.isFlat = true) {v : Value} (hv : s.holds form v = true)
    (hread : s.holds .characters (v.decoded.recast .characters) = true) :
    (v.decoded.recast .characters).textual = v.textual := by
  have hsame := textual_wireIn_decoded v none
  rwa [← wireIn_recast .characters, wireIn_of_isFlat hs hread, wireIn_of_isFlat hs hv] at hsame

/-- A query does not tell octets from the text that they are, nor the form of text. -/
theorem toQuery_decoded {kind : RecordKind} (hkind : kind.isOptions = true) {form : TextForm} {r : Value}
    (hr : kind.shape.holds form r = true) (hread : kind.shape.holds .characters (r.decoded.recast .characters) = true) :
    (r.decoded.recast .characters).toQuery = r.toQuery := by
  by_cases hnone : kind.hasQuery = false
  · rw [toQuery_of_body hkind hnone hr, toQuery_of_body hkind hnone hread]
  have hfilters (hkind : kind = .listOptions ∨ kind = .pruneOptions) :
      (r.decoded.recast .characters).toQuery = r.toQuery := by
    obtain ⟨filters, hfield, hholds, hquery⟩ := toQuery_filters hkind hr
    obtain ⟨filters', hfield', hholds', hquery'⟩ := toQuery_filters hkind hread
    obtain rfl : filters' = filters.decoded.recast .characters :=
      Option.some.inj (hfield'.symm.trans (field?_decoded hfield _))
    have hview := textual_decoded (by decide) hholds hholds'
    rw [hquery, hquery', filtersQuery, filtersQuery, serialize, serialize, dump_congr hview]
  cases kind <;> try exact absurd rfl hnone
  case inspectOptions =>
    obtain ⟨verbose, scope, hverbose, hscope, hholds, hquery⟩ := toQuery_inspect hr
    obtain ⟨verbose', scope', hverbose', hscope', hholds', hquery'⟩ := toQuery_inspect hread
    obtain rfl : scope' = scope.decoded.recast .characters :=
      Option.some.inj (hscope'.symm.trans (field?_decoded hscope _))
    obtain rfl : verbose' = verbose := by
      have h := Option.some.inj (hverbose'.symm.trans (field?_decoded hverbose _))
      simpa [decoded, recast, view] using h
    have htext : (scope.decoded.recast .characters).asText = scope.asText := by
      rw [asText_eq_textual hholds, asText_eq_textual hholds']
      exact textual_decoded (s := .text) rfl (by rwa [Shape.holds]) (by rwa [Shape.holds])
    rw [hquery, hquery', serializeText, serializeText, htext]
  case listOptions => exact hfilters (.inl rfl)
  case pruneOptions => exact hfilters (.inr rfl)

/-! ### Keys that read alike -/

/-- No two keys of one map inside read as the same text. -/
def unambiguous : Value → Bool := every fun
  | map es => decide (Entries.Distinct (es.map fun e => (decodedKey e.1, e.2)))
  | _ => true

theorem condensed_of_unambiguous {v : Value} (h : v.unambiguous = true) : v.decoded.condensed = v.decoded := by
  induction v with
  | octets holder bs =>
      change condensed (readOctets holder bs) = readOctets holder bs
      rw [readOctets]
      split <;> rfl
  | list xs ih =>
      have hxs := (every_list.mp h).2
      rw [decoded_list, condensed_list, List.map_map]
      exact congrArg list (List.map_congr_left fun x hx => ih x hx (hxs x hx))
  | tuple xs ih =>
      have hxs := (every_tuple.mp h).2
      rw [decoded_tuple, condensed_tuple, List.map_map]
      exact congrArg tuple (List.map_congr_left fun x hx => ih x hx (hxs x hx))
  | map es ih =>
      obtain ⟨hself, hes⟩ := every_map.mp h
      have hcondensed : (es.map fun e => (decodedKey e.1, decoded e.2)).map (fun e => (e.1, condensed e.2)) =
          es.map fun e => (decodedKey e.1, decoded e.2) := by
        rw [List.map_map]
        exact List.map_congr_left fun e he => Prod.ext rfl ((ih e he).2 (hes e he).2)
      have hdistinct : Entries.Distinct (es.map fun e => (decodedKey e.1, decoded e.2)) :=
        Entries.distinct_of_keys (by simp [Function.comp_def]) (of_decide_eq_true hself)
      rw [decoded_map, condensed_map, hcondensed, Entries.ofList_of_distinct hdistinct]
  | record kind form fs ns ih =>
      have hfs := (every_record.mp h).2
      rw [decoded_record, condensed_record, List.map_map]
      exact congrArg (record kind form · ns)
        (List.map_congr_left fun f hf => Prod.ext rfl (ih f hf (hfs f hf)))
  | _ => rfl

theorem unambiguous_of_holds {form : TextForm} {v : Value} (hv : form.holds v = true) : v.unambiguous = true := by
  rcases TextForm.text_or_octets hv with ⟨s, rfl⟩ | ⟨bs, rfl⟩ <;> rfl

/-- In a value that can be written no keys read alike. -/
theorem Legible.unambiguous {form : TextForm} {s : Shape} {v : Value} (h : Legible form s v) :
    v.unambiguous = true := by
  induction h with
  | flag => rfl
  | count => rfl
  | text hv _ => exact unambiguous_of_holds hv
  | null => rfl
  | optional _ _ ih => exact ih
  | list _ ih => exact every_list.mpr ⟨rfl, ih⟩
  | @map s es hdistinct hkeys _ ih =>
      refine every_map.mpr ⟨decide_eq_true ?_, fun e he => ⟨?_, ih e he⟩⟩
      · exact Entries.distinct_of_keys (by simp [Function.comp_def]) hdistinct
      · obtain ⟨hkey, -⟩ := hkeys e he
        exact unambiguous_of_holds hkey
  | @record kind fields form' fs ns _ _ hfilled _ ih =>
      refine every_record.mpr ⟨rfl, fun f hf => ?_⟩
      obtain ⟨d, hd, hattr⟩ := hfilled.declared f hf
      exact ih d hd f.2 (hattr ▸ hf)

end Value

/-! ### The three forms -/

namespace RecordKind
open Value

theorem check_alike {kind : RecordKind} (hkind : kind.isReport = false) {v : Value} (hv : v.isPlain = true) :
    Alike Agree (kind.check .characters v) (kind.check .octets v) (kind.check .given v) := by
  simp only [check, formOf, hkind, Bool.false_eq_true, if_false]
  exact Shape.check_alike (defaultsArePlain_shape hkind) hv

theorem holds_of_isPlain {kind : RecordKind} (hkind : kind.isReport = false) {form : TextForm} {v r : Value}
    (hv : v.isPlain = true) (h : kind.check form v = .ok r) : kind.shape.holds form r = true := by
  have hholds := holds_of_check (noRecords_of_isPlain hv) h
  rwa [formOf, hkind, if_neg Bool.false_ne_true] at hholds

theorem bodyOctets_of_ambiguous {kind : RecordKind} {form : TextForm} {r : Value}
    (hr : kind.shape.holds form r = true) (h : r.unambiguous = false) :
    ∃ f, r.bodyOctets = .error (.serialization f) := by
  rw [bodyOctets_of_holds hr]
  cases hbody : r.toBody with
  | error f => exact ⟨f, rfl⟩
  | ok body =>
      obtain ⟨t, ht⟩ := textual_of_toBody hr hbody
      rw [(legible_of_textual kind.sound_shape hr ht).unambiguous] at h
      cases h

theorem unambiguous_of_fields {kind : RecordKind} {form : TextForm} {r : Value} (hr : kind.shape.holds form r = true)
    (h : ∀ d ∈ kind.fields, ∀ x, r.field? d.1.attr = some x → d.2.holds form x = true → x.unambiguous = true) :
    r.unambiguous = true := by
  have hsound := kind.sound_shape
  rw [shape_eq] at hr hsound
  obtain ⟨_, fs, ns, rfl, hlen, hfields⟩ := Shape.holds_record.mp hr
  have hfilled := Shape.filled_of_holds (Shape.sound_record.mp hsound).1 hlen hfields
  refine every_record.mpr ⟨rfl, fun f hf => ?_⟩
  obtain ⟨d, hd, hattr⟩ := hfilled.declared f hf
  exact h d hd f.2 (hattr ▸ hfilled.lookup_eq hf) (hfilled.holds hd (hattr ▸ hf))

theorem toQuery_of_ambiguous {kind : RecordKind} (hkind : kind = .listOptions ∨ kind = .pruneOptions)
    {form : TextForm} {r : Value} (hr : kind.shape.holds form r = true) (h : r.unambiguous = false) :
    ∃ f, r.toQuery = .error (.serialization f) := by
  obtain ⟨filters, hfield, hholds, hquery⟩ := toQuery_filters hkind hr
  rw [hquery, filtersQuery]
  cases hserial : filters.serialize with
  | error f => exact ⟨f, rfl⟩
  | ok text =>
      rw [serialize, mapError_eq_ok] at hserial
      obtain ⟨t, j, ht, -, -⟩ := dump_eq_ok hserial
      rw [← wireIn_of_isFlat (by decide) hholds (some (.map (.list .text)))] at ht
      have hfilters := (legible_of_textual (by decide) hholds ht).unambiguous
      have hclear : r.unambiguous = true := by
        apply unambiguous_of_fields hr
        intro d hd x hx _
        obtain rfl : d = Shape.mapField "filters" "Filters" (.list .text) := by
          rcases hkind with rfl | rfl <;> exact List.mem_singleton.mp hd
        obtain rfl : x = filters := Option.some.inj (hx.symm.trans hfield)
        exact hfilters
      rw [hclear] at h
      cases h

/-- Options for inspection have no map in which keys could read alike. -/
theorem unambiguous_of_inspect {form : TextForm} {r : Value} (hr : inspectOptions.shape.holds form r = true) :
    r.unambiguous = true := by
  apply unambiguous_of_fields hr
  intro d hd x _ hx
  rcases List.mem_cons.mp hd with rfl | hd
  · obtain ⟨b, rfl⟩ := Shape.holds_flag.mp hx
    rfl
  · obtain rfl := List.mem_singleton.mp hd
    rw [show (Shape.textField "scope" "Scope" "").2 = .text from rfl, Shape.holds] at hx
    exact unambiguous_of_holds hx

/-- **The form of text is a matter of representation.** Plain data is accepted in all three forms or in none, with
problems in characters and in octets at the same places in the same order. What is accepted in octets is, read, what is
accepted in characters, and sends the same. What is accepted with text as given sends the same too, unless two keys of
one map read as the same text: then it has no encoding, where the other forms keep the last value. -/
theorem text_parity {kind : RecordKind} (hkind : kind.isReport = false) {es : Entries}
    (hplain : (Value.map es).isPlain = true) :
    (∃ ps qs rs, kind.check .characters (.map es) = .error ps ∧ kind.check .octets (.map es) = .error qs ∧
      kind.check .given (.map es) = .error rs ∧ ps.map (·.path) = qs.map (·.path)) ∨
    ∃ a b g, kind.check .characters (.map es) = .ok a ∧ kind.check .octets (.map es) = .ok b ∧
      kind.check .given (.map es) = .ok g ∧
      (a = b.decoded.recast .characters ∧ a.bodyOctets = b.bodyOctets ∧
        (kind.isOptions = true → a.toQuery = b.toQuery)) ∧
      a = g.decoded.condensed.recast .characters ∧
      (g.unambiguous = true →
        g.bodyOctets = a.bodyOctets ∧ (kind.isOptions = true → g.toQuery = a.toQuery)) ∧
      (g.unambiguous = false →
        (∃ f, g.bodyOctets = .error (.serialization f)) ∧
        (kind = .listOptions ∨ kind = .pruneOptions → ∃ f, g.toQuery = .error (.serialization f)) ∧
        (kind.isOptions = true → kind ≠ .listOptions → kind ≠ .pruneOptions → g.toQuery = a.toQuery)) := by
  have halike := check_alike hkind hplain
  generalize hchars : kind.check .characters (.map es) = x at halike
  generalize hoctets : kind.check .octets (.map es) = y at halike
  generalize hgiven : kind.check .given (.map es) = z at halike
  cases halike with
  | @error ps qs rs hpaths => exact .inl ⟨ps, qs, rs, rfl, rfl, rfl, hpaths⟩
  | @ok a b g hagree =>
      have ha := holds_of_isPlain hkind hplain hchars
      have hb := holds_of_isPlain hkind hplain hoctets
      have hg := holds_of_isPlain hkind hplain hgiven
      have hbody {form : TextForm} {r : Value} (hr : kind.shape.holds form r = true)
          (hread : a = r.decoded.recast .characters) : a.bodyOctets = r.bodyOctets := by
        rw [bodyOctets_of_holds ha, bodyOctets_of_holds hr, hread, toBody_decoded]
      have hquery {form : TextForm} {r : Value} (hr : kind.shape.holds form r = true)
          (hread : a = r.decoded.recast .characters) (hoptions : kind.isOptions = true) : a.toQuery = r.toQuery := by
        rw [hread] at ha ⊢
        exact toQuery_decoded hoptions hr ha
      refine .inr ⟨a, b, g, rfl, rfl, rfl, ⟨hagree.octets, hbody hb hagree.octets, hquery hb hagree.octets⟩,
        hagree.given, fun hclear => ?_, fun hambiguous => ?_⟩
      · have hread := hagree.given
        rw [condensed_of_unambiguous hclear] at hread
        exact ⟨(hbody hg hread).symm, fun hoptions => (hquery hg hread hoptions).symm⟩
      · refine ⟨bodyOctets_of_ambiguous hg hambiguous, fun h => toQuery_of_ambiguous h hg hambiguous, ?_⟩
        intro hoptions hlist hprune
        by_cases hnone : kind.hasQuery = false
        · rw [toQuery_of_body hoptions hnone hg, toQuery_of_body hoptions hnone ha]
        · obtain rfl : kind = .inspectOptions := by
            cases kind <;> first | rfl | exact absurd rfl hnone | exact absurd rfl hlist | exact absurd rfl hprune
          rw [unambiguous_of_inspect hg] at hambiguous
          cases hambiguous

/-- Filters two keys of which read as the same text. -/
def collidingFilters : Entries :=
  [(.text "filters", .map [(.text "a", .list [.octets .fixed [0x78]]), (.octets .fixed [0x61], .list [])])]

theorem text_parity_collidingFilters :
    ∃ a g, listOptions.check .characters (.map collidingFilters) = .ok a ∧
      listOptions.check .given (.map collidingFilters) = .ok g ∧ a = g.decoded.condensed.recast .characters ∧
      a.toQuery = .ok [("filters", .text "\x7b\"a\":[]\x7d")] ∧ ∃ f, g.toQuery = .error (.serialization f) := by
  have hkind : listOptions.isReport = false := rfl
  have hplain : (Value.map collidingFilters).isPlain = true := by decide
  rcases text_parity hkind hplain with
    ⟨ps, _, _, hchars, -⟩ | ⟨a, _, g, hchars, -, hgiven, -, hread, -, hambiguous⟩
  · cases hchars
  · refine ⟨a, g, hchars, hgiven, hread, ?_, (hambiguous ?_).2.1 (.inl rfl)⟩
    · cases hchars
      rfl
    · cases hgiven
      decide

end RecordKind

end DaemonClient
