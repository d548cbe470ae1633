import DaemonClient.Proofs.Parity
import DaemonClient.Proofs.States

/-! What the wire form of a well-typed record has: at every depth one key for each field that does not hold null, in the
order in which the record holds its fields, and no null anywhere; and the record is made again from it
(`toWire_complete`). Records hold their fields in declared order as a check makes them of data (`Made.inOrder`), but not
always as edits put them together, and a check keeps a record that is given to it as it is. -/

namespace DaemonClient
open Outcome

/-- Fields are those of a record kind, in declared order. -/
def RecordKind.hasInOrder (kind : RecordKind) (fs : Named) : Bool := fs.map (·.1) == kind.slots.map (·.attr)

namespace Value

/-- A value without null in any part. -/
def noNulls : Value → Bool := every fun v => !v.isNull

/-- A value without null whose maps have each key once. -/
def isComplete : Value → Bool := every fun
  | null => false
  | map es => decide (Entries.Distinct es)
  | _ => true

theorem noNulls_of_isComplete {v : Value} (h : v.isComplete = true) : v.noNulls = true :=
  every_mono (fun v hv => by cases v <;> first | rfl | cases hv) h

theorem keysOnce_of_isComplete {v : Value} (h : v.isComplete = true) : v.keysOnce = true :=
  every_mono (fun v hv => by cases v <;> first | rfl | exact hv) h

theorem isComplete_of_holds {form : TextForm} {v : Value} (hv : form.holds v = true) : v.isComplete = true := by
  rcases TextForm.text_or_octets hv with ⟨s, rfl⟩ | ⟨bs, rfl⟩ <;> rfl

/-- All records in a value hold their fields in declared order. -/
def inOrder : Value → Bool := everyRecord RecordKind.hasInOrder

end Value

/-! ### Keys of wire forms -/

/-- The wire map of a record with some fields, told by its keys. -/
structure WireKeys (declared : List (Slot × Shape)) (fs : Named) (es : Entries) : Prop where
  once : (es.map (·.1)).Nodup
  /-- The keys are the wire names of the declared fields that hold something other than null. -/
  exactly : ∀ k, k ∈ es.map (·.1) ↔ ∃ d ∈ declared, ∃ x, fs.lookup d.1.attr = some x ∧ x ≠ .null ∧ k = .text d.1.wire
  /-- They come in the order in which the fields are held. -/
  held : List.Forall₂ (fun f k => ∃ d ∈ declared, d.1.attr = f.1 ∧ k = .text d.1.wire)
    (fs.filter fun f => !f.2.isNull) (es.map (·.1))
  /-- That is declared order, if the fields are held in declared order. -/
  inOrder : fs.map (·.1) = declared.map (·.1.attr) →
    es.map (·.1) = (declared.filter fun d => !((fs.lookup d.1.attr).getD .null).isNull).map fun d => .text d.1.wire

/-- A value in a place of a shape and its wire form: records are maps with their wire keys, at every depth; a value
without records is its own wire form. -/
inductive WireOf : Shape → Value → Value → Prop
  | plain (s : Shape) {v : Value} (h : v.noRecords = true) : WireOf s v v
  | optional {s : Shape} {v w : Value} (h : WireOf s v w) : WireOf (.optional s) v w
  | list {s : Shape} {xs : List Value} {wire : Value → Value} (h : ∀ x ∈ xs, WireOf s x (wire x)) :
    WireOf (.list s) (.list xs) (.list (xs.map wire))
  | map {s : Shape} {es : Entries} {wire : Value → Value} (h : ∀ e ∈ es, WireOf s e.2 (wire e.2)) :
    WireOf (.map s) (.map es) (.map (es.map fun e => (e.1, wire e.2)))
  | record {kind : RecordKind} {fields : List (Slot × Shape)} (form : TextForm) {fs : Named} (notes : Named)
    {es : Entries} (keys : WireKeys fields fs es)
    (h : ∀ d ∈ fields, ∀ x w, fs.lookup d.1.attr = some x → (.text d.1.wire, w) ∈ es → WireOf d.2 x w) :
    WireOf (.record kind fields) (.record kind form fs notes) (.map es)

namespace Shape.Filled

variable {form : TextForm} {declared : List (Slot × Shape)} {fs : Named}

/-- The wire name of what a field holds, field by field. -/
theorem held_wireFields (hnames : Shape.namesSound declared) (h : Shape.Filled form declared fs) :
    List.Forall₂ (fun f k => ∃ d ∈ declared, d.1.attr = f.1 ∧ k = .text d.1.wire)
      (fs.filter fun f => !f.2.isNull) ((fs.filterMap (Value.wireField? declared)).map (·.1)) := by
  have hdeclared := h.declared
  clear h
  induction fs with
  | nil => exact .nil
  | cons f fs ih =>
      obtain ⟨⟨d, hd, hattr⟩, hrest⟩ := List.forall_mem_cons.mp hdeclared
      cases hnull : f.2.isNull with
      | true =>
          have hnone : Value.wireField? declared f = none := by
            rw [Option.eq_none_iff_forall_not_mem]
            intro e he
            exact ((Value.wireField?_eq_some hnames).mp he).1 (Value.isNull_iff.mp hnull)
          rw [List.filter_cons_of_neg (by simp [hnull]), List.filterMap_cons_none hnone]
          exact ih hrest
      | false =>
          have hsome := (Value.wireField?_eq_some hnames).mpr ⟨Value.isNull_eq_false.mp hnull, d, hd, hattr, rfl⟩
          rw [List.filter_cons_of_pos (by simp [hnull]), List.filterMap_cons_some hsome, List.map_cons]
          exact .cons ⟨d, hd, hattr, rfl⟩ (ih hrest)

end Shape.Filled

/-- The wire map of a record has the wire names of the fields that do not hold null, in the order of the fields. -/
theorem WireKeys.of_filled {form : TextForm} {declared : List (Slot × Shape)} {fs : Named}
    (hnames : Shape.namesSound declared) (h : Shape.Filled form declared fs) :
    WireKeys declared fs (fs.filterMap (Value.wireField? declared)) := by
  have hheld := h.held_wireFields hnames
  refine ⟨?_, fun k => ?_, hheld, fun hattrs => ?_⟩
  · have hdistinct := Entries.distinct_iff_keys.mp (Value.distinct_wireFields hnames h.nodup)
    refine hdistinct.imp_of_mem fun {a b} ha _ hab => ?_
    rintro rfl
    obtain ⟨e, he, rfl⟩ := List.mem_map.mp ha
    obtain ⟨d, -, x, -, -, rfl⟩ := (Value.mem_wireFields hnames).mp he
    simp at hab
  · rw [List.mem_map]
    constructor
    · rintro ⟨e, he, rfl⟩
      obtain ⟨d, hd, x, hx, hne, rfl⟩ := (Value.mem_wireFields hnames).mp he
      exact ⟨d, hd, x, h.lookup_eq hx, hne, rfl⟩
    · rintro ⟨d, hd, x, hx, hne, rfl⟩
      exact ⟨_, (Value.mem_wireFields hnames).mpr ⟨d, hd, x, Named.mem_of_lookup hx, hne, rfl⟩, rfl⟩
  · generalize (fs.filterMap (Value.wireField? declared)).map (·.1) = keys at hheld
    -- held in declared order, the fields are the declared ones with what each of them holds
    have hpairs : fs = declared.map fun d => (d.1.attr, (fs.lookup d.1.attr).getD .null) := by
      refine eq_map_of_forall₂ ?_
      rw [← List.forall₂_map_left_iff (f := fun d : Slot × Shape => d.1.attr)
        (R := fun a f => f = (a, (fs.lookup a).getD .null)), ← hattrs, List.forall₂_map_left_iff, List.forall₂_same]
      intro f hf
      rw [h.lookup_eq hf, Option.getD_some]
    rw [hpairs, List.filter_map, List.forall₂_map_left_iff] at hheld
    have hmem : ∀ d ∈ declared.filter fun d => !((fs.lookup d.1.attr).getD .null).isNull, d ∈ declared :=
      fun d hd => List.mem_of_mem_filter hd
    refine eq_map_of_forall₂ (((List.forall₂_and_left _ _).mpr ⟨hmem, hheld⟩).imp ?_)
    rintro d k ⟨hd, d', hd', hattr, rfl⟩
    rw [List.inj_on_of_nodup_map hnames.1 hd' hd hattr]

namespace Shape

/-- A shape of values that are not null and have no items and no values under keys that are. -/
def isNullFree : Shape → Bool
  | .optional _ => false
  | .list s => s.isNullFree
  | .map s => s.isNullFree
  | _ => true

/-- The shape of what is there where a value is not null. -/
def given : Shape → Shape
  | .optional s => s
  | s => s

/-- Null stands in fields of records and nowhere else. -/
def nullsInFields : Shape → Bool := every fun _ fields => fields.all fun d => d.2.given.isNullFree

theorem given_of_isNullFree {s : Shape} (h : s.isNullFree = true) : s.given = s := by
  cases s with
  | optional => cases h
  | _ => rfl

theorem ne_null_of_isNullFree {form : TextForm} {s : Shape} (h : s.isNullFree = true) {v : Value}
    (hv : s.holds form v = true) : v ≠ .null := by
  rintro rfl
  obtain ⟨s', rfl⟩ := optional_of_holds_null hv
  cases h

/-- The wire form of a well-typed value has no nulls, and each key once in every map. -/
theorem isComplete_wireIn {form : TextForm} {s : Shape} (hs : s.sound = true) (hnulls : s.nullsInFields = true)
    (hfree : s.given.isNullFree = true) {v : Value} (hv : s.holds form v = true) (hne : v ≠ .null) :
    (v.wireIn (some s)).isComplete = true := by
  induction s generalizing v with
  | flag =>
      obtain ⟨b, rfl⟩ := holds_flag.mp hv
      rfl
  | count =>
      obtain ⟨n, rfl⟩ := holds_count.mp hv
      rfl
  | text =>
      rw [holds] at hv
      rw [Value.wireIn_of_holds hv]
      exact Value.isComplete_of_holds hv
  | optional s ih =>
      rw [given] at hfree
      rw [Value.wireIn_optional]
      exact ih hs hnulls (by rwa [given_of_isNullFree hfree]) ((holds_optional.mp hv).resolve_left hne).2 hne
  | list s ih =>
      obtain ⟨xs, rfl, hxs⟩ := holds_list.mp hv
      have hfree : s.isNullFree = true := hfree
      rw [Value.wireIn_list]
      refine Value.every_list.mpr ⟨rfl, List.forall_mem_map.mpr fun x hx => ?_⟩
      exact ih hs hnulls (by rwa [given_of_isNullFree hfree]) (hxs x hx) (ne_null_of_isNullFree hfree (hxs x hx))
  | map s ih =>
      obtain ⟨es, rfl, hdistinct, hes⟩ := holds_map.mp hv
      have hfree : s.isNullFree = true := hfree
      rw [Value.wireIn_map]
      refine Value.every_map.mpr ⟨decide_eq_true ?_, List.forall_mem_map.mpr fun e he => ?_⟩
      · exact Entries.distinct_of_keys (by simp [Function.comp_def]) hdistinct
      · refine ⟨Value.isComplete_of_holds (hes e he).1, ?_⟩
        exact ih hs hnulls (by rwa [given_of_isNullFree hfree]) (hes e he).2 (ne_null_of_isNullFree hfree (hes e he).2)
  | record kind fields ih =>
      obtain ⟨form', fs, ns, rfl, hlen, hfields⟩ := holds_record.mp hv
      obtain ⟨hnames, -, hslots⟩ := sound_record.mp hs
      obtain ⟨hgiven, hnulls⟩ := every_record.mp hnulls
      rw [List.all_eq_true] at hgiven
      have hfilled := filled_of_holds hnames hlen hfields
      rw [Value.wireIn_record]
      refine Value.every_map.mpr ⟨decide_eq_true (Value.distinct_wireFields hnames hfilled.nodup), fun e he => ?_⟩
      obtain ⟨d, hd, x, hx, hxne, rfl⟩ := (Value.mem_wireFields hnames).mp he
      exact ⟨rfl, ih d hd (hslots d hd).2 (hnulls d hd) (hgiven d hd) (hfilled.holds hd hx) hxne⟩

/-- A well-typed value is made again from its wire form. -/
theorem check_wireIn {form : TextForm} {s : Shape} (hs : s.sound = true) (hnulls : s.nullsInFields = true) {v : Value}
    (hv : s.holds form v = true) : check form s (v.wireIn (some s)) = .ok (v.fresh form) := by
  induction s generalizing v with
  | flag =>
      obtain ⟨b, rfl⟩ := holds_flag.mp hv
      rfl
  | count =>
      obtain ⟨n, rfl⟩ := holds_count.mp hv
      rfl
  | text =>
      rw [holds] at hv
      rw [Value.wireIn_of_holds hv, check, Check.text_of_holds hv]
      rcases TextForm.text_or_octets hv with ⟨s, rfl⟩ | ⟨bs, rfl⟩ <;> rfl
  | optional s ih =>
      rcases holds_optional.mp hv with rfl | ⟨hne, hv⟩
      · rfl
      · rw [Value.wireIn_optional]
        rw [check_optional (mt Value.wireIn_eq_null.mp hne)]
        exact ih hs hnulls hv
  | list s ih =>
      obtain ⟨xs, rfl, hxs⟩ := holds_list.mp hv
      have hitems : List.Forall₂ (fun w b => check form s w = .ok b) (xs.map (Value.wireIn (some s)))
          (xs.map (Value.fresh form)) := by
        rw [List.forall₂_map_left_iff, List.forall₂_map_right_iff, List.forall₂_same]
        exact fun x hx => ih hs hnulls (hxs x hx)
      rw [Value.wireIn_list, check, Value.items?, Value.fresh_list]
      simp only [Option.bind_some, items?, Check.items_eq_ok.mpr hitems, map_ok]
  | map s ih =>
      obtain ⟨es, rfl, hdistinct, hes⟩ := holds_map.mp hv
      have hentries : List.Forall₂ (fun n o => Check.text form n.1 = .ok o.1 ∧ check form s n.2 = .ok o.2)
          (es.map fun e => (e.1, e.2.wireIn (some s))) (es.map fun e => (e.1, e.2.fresh form)) := by
        rw [List.forall₂_map_left_iff, List.forall₂_map_right_iff, List.forall₂_same]
        exact fun e he => ⟨Check.text_of_holds (hes e he).1, ih hs hnulls (hes e he).2⟩
      have hout : Entries.Distinct (es.map fun e => (e.1, e.2.fresh form)) :=
        Entries.distinct_of_keys (by simp [Function.comp_def]) hdistinct
      rw [Value.wireIn_map, check, Value.fresh_map]
      simp only [Option.bind_some, values?, Check.entries_eq_ok.mpr hentries, map_ok, Entries.ofList_of_distinct hout]
  | record kind fields ih =>
      obtain ⟨form', fs, ns, rfl, hlen, hfields⟩ := holds_record.mp hv
      obtain ⟨hnames, -, hslots⟩ := sound_record.mp hs
      obtain ⟨hgiven, hnulls⟩ := every_record.mp hnulls
      rw [List.all_eq_true] at hgiven
      have hfilled := filled_of_holds hnames hlen hfields
      have hcarried : Carried (fun w t => t = w) fields fs (fs.filterMap (Value.wireField? fields)) :=
        List.forall₂_same.mpr fun _ _ => ⟨rfl, rfl⟩
      rw [Value.wireIn_record, Value.fresh_record]
      refine check_carried hs hfilled hcarried (fun {w t} ht htnull => ht.symm.trans htnull) rfl ?_
      rintro d hd x _ hne hx rfl
      -- the field takes its wire form as it stands, since no null in it is left to be read as empty
      have hcomplete := isComplete_wireIn (hslots d hd).2 (hnulls d hd) (hgiven d hd) hx hne
      rw [Value.normalise_of_keysOnce d.1 (Value.keysOnce_of_isComplete hcomplete) (mt Value.wireIn_eq_null.mp hne)]
      exact ih d hd (hslots d hd).2 (hnulls d hd) hx

end Shape

/-! ### Records and their wire forms -/

/-- What a well-typed value is written as is its wire form, at every depth. -/
theorem WireOf.of_holds {form : TextForm} {s : Shape} (hs : s.sound = true) {v : Value} (hv : s.holds form v = true) :
    WireOf s v (v.wireIn (some s)) := by
  induction s generalizing v with
  | flag =>
      obtain ⟨b, rfl⟩ := Shape.holds_flag.mp hv
      exact plain _ rfl
  | count =>
      obtain ⟨n, rfl⟩ := Shape.holds_count.mp hv
      exact plain _ rfl
  | text =>
      rw [Shape.holds] at hv
      rw [Value.wireIn_of_holds hv]
      rcases TextForm.text_or_octets hv with ⟨s, rfl⟩ | ⟨bs, rfl⟩ <;> exact plain _ rfl
  | optional s ih =>
      rcases Shape.holds_optional.mp hv with rfl | ⟨-, hv⟩
      · exact plain _ rfl
      · rw [Value.wireIn_optional]
        exact optional (ih hs hv)
  | list s ih =>
      obtain ⟨xs, rfl, hxs⟩ := Shape.holds_list.mp hv
      rw [Value.wireIn_list]
      exact list fun x hx => ih hs (hxs x hx)
  | map s ih =>
      obtain ⟨es, rfl, -, hes⟩ := Shape.holds_map.mp hv
      rw [Value.wireIn_map]
      exact map fun e he => ih hs (hes e he).2
  | record kind fields ih =>
      obtain ⟨form', fs, ns, rfl, hlen, hfields⟩ := Shape.holds_record.mp hv
      obtain ⟨hnames, -, hslots⟩ := Shape.sound_record.mp hs
      have hfilled := Shape.filled_of_holds hnames hlen hfields
      rw [Value.wireIn_record]
      refine record form' ns (WireKeys.of_filled hnames hfilled) fun d hd x w hx hw => ?_
      obtain ⟨d', hd', y, hy, -, hentry⟩ := (Value.mem_wireFields hnames).mp hw
      obtain ⟨hwire, rfl⟩ := Prod.mk.inj hentry
      obtain rfl := List.inj_on_of_nodup_map hnames.2.1 hd hd' (Value.text.inj hwire)
      obtain rfl := Option.some.inj (hx.symm.trans (hfilled.lookup_eq hy))
      exact ih d hd (hslots d hd).2 (hfilled.holds hd hy)

namespace Shape

/-- What stands ready for a field that is not given holds its own fields in declared order. -/
def defaultIsOrdered (d : Slot × Shape) : Bool :=
  match d.1.fallback with
  | some ⟨v, true⟩ => v.inOrder
  | _ => true

/-- All ready defaults of a shape hold their fields in declared order. -/
def defaultsAreOrdered : Shape → Bool := every fun _ fields => fields.all defaultIsOrdered

/-- What a check makes of a value whose records hold their fields in declared order holds its own so, at every
depth. -/
theorem Made.inOrder {form : TextForm} {s : Shape} (hs : s.sound = true) (hdefaults : s.defaultsAreOrdered = true)
    {r : Value} (h : Made RecordKind.hasInOrder form s r) : r.inOrder = true := by
  have htext {o : Value} (ho : form.holds o = true) : o.inOrder = true := by
    rcases TextForm.text_or_octets ho with ⟨s, rfl⟩ | ⟨bs, rfl⟩ <;> rfl
  induction h with
  | flag b => rfl
  | count n => rfl
  | text ho => exact htext ho
  | absent s => rfl
  | present _ ih => exact ih hs hdefaults
  | list _ ih => exact Value.every_list.mpr ⟨rfl, fun y hy => ih y hy hs hdefaults⟩
  | map hkeys _ ih =>
      exact Value.every_map.mpr ⟨rfl, Entries.forall_ofList (P := fun k => k.inOrder = true)
        (Q := fun x => x.inOrder = true) fun o ho => ⟨htext (hkeys o ho), ih o ho hs hdefaults⟩⟩
  | @record kind fields fs hattrs _ ih =>
      obtain ⟨-, hslotAttrs, hslots⟩ := sound_record.mp hs
      obtain ⟨hdefault, hdefaults⟩ := every_record.mp hdefaults
      rw [List.all_eq_true] at hdefault
      have horder : kind.hasInOrder fs = true := beq_iff_eq.mpr (hattrs.trans hslotAttrs)
      refine Value.everyRecord_record.mpr ⟨horder, fun f hf => ?_⟩
      obtain ⟨d, hd, hattr⟩ := List.mem_map.mp (hattrs ▸ List.mem_map_of_mem hf : f.1 ∈ fields.map (·.1.attr))
      by_cases hready : d.1.fallback = some ⟨f.2, true⟩
      · have hdefault := hdefault d hd
        rwa [defaultIsOrdered, hready] at hdefault
      · exact ih d hd f.2 (hattr ▸ hf) hready (hslots d hd).2 (hdefaults d hd)
  | kept fields hpasses => exact hpasses

end Shape

namespace RecordKind

theorem nullsInFields_shape (kind : RecordKind) : kind.shape.nullsInFields = true := by cases kind <;> decide

theorem defaultsAreOrdered_shape (kind : RecordKind) : kind.shape.defaultsAreOrdered = true := by
  cases kind <;> decide

theorem isNullFree_shape (kind : RecordKind) : kind.shape.given.isNullFree = true := by cases kind <;> rfl

/-- **The wire form of a well-typed record loses nothing and has no null.** At every depth it has one key for each field
that does not hold null, in the order in which the record holds its fields, and the same record is made of it. A record
that a check has made holds its fields in declared order at every depth, if all records in what it was made of do. -/
theorem toWire_complete {kind : RecordKind} {form : TextForm} {r : Value}
    (hr : kind.shape.holds (kind.formOf form) r = true) :
    WireOf kind.shape r r.toWire ∧ r.toWire.noNulls = true ∧
      (∃ back, kind.check form r.toWire = .ok back ∧ back = r.fresh (kind.formOf form) ∧ back.same r = true) ∧
      ∀ v, v.inOrder = true → kind.check form v = .ok r → r.inOrder = true := by
  have hne : r ≠ .null := by
    rintro rfl
    rw [shape_eq] at hr
    cases hr
  rw [toWire_eq hr]
  refine ⟨WireOf.of_holds kind.sound_shape hr, ?_, ⟨_, Shape.check_wireIn kind.sound_shape kind.nullsInFields_shape hr,
    rfl, Value.same_fresh _ kind.sound_shape hr⟩, fun v hv hcheck => ?_⟩
  · exact Value.noNulls_of_isComplete
      (Shape.isComplete_wireIn kind.sound_shape kind.nullsInFields_shape kind.isNullFree_shape hr hne)
  · exact (Shape.made_of_check kind.sound_shape (kind.defaultsHold_shape form) hv hcheck).inOrder kind.sound_shape
      kind.defaultsAreOrdered_shape

/-- Settings of an endpoint with its own addresses, of which one is octets that are no text. -/
def octetSettings : Value := .record .connectOptions .octets
  [("container", .octets .fixed [0x63]),
    ("endpoint_config", .record .endpointSettings .octets
      [("ipam_config", .record .endpointAddresses .octets
          [("ipv4_address", .octets .fixed [0xFF]), ("ipv6_address", .null), ("link_local_ips", .list [])] []),
        ("links", .list []), ("aliases", .list []), ("network_id", .null), ("endpoint_id", .null), ("gateway", .null),
        ("ip_address", .null), ("ip_prefix_len", .int 24), ("ipv6_gateway", .null), ("global_ipv6_address", .null),
        ("global_ipv6_prefix_len", .null), ("mac_address", .null), ("driver_opts", .map [])] [])] []

theorem toWire_complete_octetSettings :
    connectOptions.shape.holds (connectOptions.formOf .octets) octetSettings = true ∧
      WireOf connectOptions.shape octetSettings (.map [(.text "Container", .octets .fixed [0x63]),
        (.text "EndpointConfig", .map [
          (.text "IPAMConfig", .map [(.text "IPv4Address", .octets .fixed [0xFF]), (.text "LinkLocalIPs", .list [])]),
          (.text "Links", .list []), (.text "Aliases", .list []), (.text "IPPrefixLen", .int 24),
          (.text "DriverOpts", .map [])])]) ∧
      ∃ back, connectOptions.check .octets octetSettings.toWire = .ok back ∧ back.same octetSettings = true := by
  have hholds : connectOptions.shape.holds (connectOptions.formOf .octets) octetSettings = true := by decide
  obtain ⟨hwire, -, ⟨back, hback, -, hsame⟩, -⟩ := toWire_complete hholds
  exact ⟨hholds, hwire, back, hback, hsame⟩

/-- Options for disconnecting whose container was put in after they were made. -/
def lateContainer : Value :=
  .record .disconnectOptions .characters [("force", .bool false), ("container", .text "c")] []

/-- A record that is put together with its fields out of order is well-typed, and its wire keys are out of order too. -/
theorem toWire_lateContainer :
    (disconnectOptions.unchecked .characters []).edit [.text "container"] (.text "c") = .ok lateContainer ∧
      disconnectOptions.shape.holds (disconnectOptions.formOf .characters) lateContainer = true ∧
      ∃ es, lateContainer.toWire = .map es ∧ es.map (·.1) = [.text "Force", .text "Container"] ∧
        es.map (·.1) ≠ disconnectOptions.fields.map fun d => .text d.1.wire := by
  refine ⟨rfl, by decide, _, rfl, rfl, fun h => ?_⟩
  have hfirst : "Force" = "Container" := Value.text.inj (List.cons.inj h).1
  simp at hfirst

end RecordKind

end DaemonClient
