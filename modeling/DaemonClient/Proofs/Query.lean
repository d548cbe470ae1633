import DaemonClient.Client.Calls
import DaemonClient.Proofs.Percent
import DaemonClient.Proofs.RoundTrip

/-! What the daemon reads in the query is what the options say (`target_readsBack`). Options with filters send one pair,
whose text is the JSON text of the filters; options for inspection send their verbosity and their scope. Splitting and
decoding the query gives the pairs back, and the JSON text gives the filters back, so two targets that agree come from
options that agree once their octets are read. -/

namespace DaemonClient
open Outcome

/-! ### Values without records -/

namespace Shape

def isFlat : Shape → Bool
  | .optional s => isFlat s
  | .list s => isFlat s
  | .map s => isFlat s
  | .record _ _ => false
  | _ => true

end Shape

namespace Value

/-- A value without records is its own wire form. -/
theorem wireIn_of_isFlat {form : TextForm} {s : Shape} (hs : s.isFlat = true) {v : Value} (hv : s.holds form v = true)
    (place : Option Shape) : wireIn place v = v := by
  induction s generalizing v place with
  | flag =>
      obtain ⟨b, rfl⟩ := Shape.holds_flag.mp hv
      rfl
  | count =>
      obtain ⟨n, rfl⟩ := Shape.holds_count.mp hv
      rfl
  | text => exact wireIn_of_holds (by rwa [Shape.holds] at hv) place
  | optional s ih =>
      rcases Shape.holds_optional.mp hv with rfl | ⟨-, hv⟩
      · rfl
      · exact ih hs hv place
  | list s ih =>
      obtain ⟨xs, rfl, hxs⟩ := Shape.holds_list.mp hv
      rw [wireIn_list]
      exact congrArg list (map_eq_self fun x hx => ih hs (hxs x hx) _)
  | map s ih =>
      obtain ⟨es, rfl, -, hes⟩ := Shape.holds_map.mp hv
      rw [wireIn_map]
      exact congrArg map (map_eq_self fun e he => Prod.ext rfl (ih hs (hes e he).2 _))
  | record => cases hs

/-- The textual view of a value without records is the value with its octets read. -/
theorem textual_of_isFlat {form : TextForm} {s : Shape} (hs : s.isFlat = true) {v t : Value}
    (hv : s.holds form v = true) (h : v.textual = .ok t) : t = v.decoded := by
  induction s generalizing v t with
  | flag =>
      obtain ⟨b, rfl⟩ := Shape.holds_flag.mp hv
      exact (Except.ok.inj h).symm
  | count =>
      obtain ⟨n, rfl⟩ := Shape.holds_count.mp hv
      exact (Except.ok.inj h).symm
  | text =>
      rw [Shape.holds] at hv
      rw [decoded_eq_decodedKey hv, (decodedKey_of_textual hv h).1]
  | optional s ih =>
      rcases Shape.holds_optional.mp hv with rfl | ⟨-, hv⟩
      · exact (Except.ok.inj h).symm
      · exact ih hs hv h
  | list s ih =>
      obtain ⟨xs, rfl, hxs⟩ := Shape.holds_list.mp hv
      obtain ⟨ys, rfl, hys⟩ := textual_list_eq_ok.mp h
      rw [decoded_list]
      have hall := (List.forall₂_and_left _ _).mpr ⟨hxs, hys⟩
      exact congrArg list (eq_map_of_forall₂ (hall.imp fun _ _ hxy => ih hs hxy.1 hxy.2))
  | map s ih =>
      obtain ⟨es, rfl, -, hes⟩ := Shape.holds_map.mp hv
      obtain ⟨new, rfl, -, hnew⟩ := textual_map_eq_ok h
      rw [decoded_map]
      have hall := (List.forall₂_and_left _ _).mpr ⟨hes, hnew⟩
      exact congrArg map (eq_map_of_forall₂ (hall.imp fun _ _ he =>
        Prod.ext (decodedKey_of_textual he.1.1 he.2.1).1.symm (ih hs he.1.2 he.2.2)))
  | record => cases hs

/-- Text is read for the query as it is for a body. -/
theorem asText_eq_textual {form : TextForm} {v : Value} (hv : form.holds v = true) : v.asText = v.textual := by
  rcases TextForm.text_or_octets hv with ⟨s, rfl⟩ | ⟨bs, rfl⟩ <;> rfl

end Value

/-! ### The query of options -/

namespace RecordKind

/-- The kinds of options that send a query. -/
def hasQuery : RecordKind → Bool
  | inspectOptions => true
  | listOptions => true
  | pruneOptions => true
  | _ => false

/-- A declared field of a well-typed record holds a value of its shape. -/
theorem field?_of_holds {kind : RecordKind} {form : TextForm} {r : Value} (hr : kind.shape.holds form r = true)
    {d : Slot × Shape} (hd : d ∈ kind.fields) : ∃ x, r.field? d.1.attr = some x ∧ d.2.holds form x = true := by
  rw [kind.shape_eq] at hr
  obtain ⟨_, fs, _, rfl, -, hfields⟩ := Shape.holds_record.mp hr
  exact hfields d hd

end RecordKind

namespace Value

theorem needed_of_field? {r x : Value} {attr : String} (h : r.field? attr = some x) : r.needed attr = .ok x := by
  rw [needed, h]

theorem toQuery_inspect {form : TextForm} {r : Value} (hr : RecordKind.inspectOptions.shape.holds form r = true) :
    ∃ b scope, r.field? "verbose" = some (bool b) ∧ r.field? "scope" = some scope ∧ form.holds scope = true ∧
      r.toQuery = (do
        let s ← scope.serializeText.mapError .serialization
        return [("verbose", text (if b then "true" else "false")), ("scope", s)]) := by
  obtain ⟨verbose, hverbose, hflag⟩ : ∃ x, r.field? "verbose" = some x ∧ Shape.flag.holds form x = true :=
    RecordKind.field?_of_holds hr (d := Shape.flagField "verbose" "Verbose") List.mem_cons_self
  obtain ⟨scope, hscope, htext⟩ : ∃ x, r.field? "scope" = some x ∧ Shape.text.holds form x = true :=
    RecordKind.field?_of_holds hr (d := Shape.textField "scope" "Scope" "")
      (List.mem_cons_of_mem _ List.mem_cons_self)
  obtain ⟨b, rfl⟩ := Shape.holds_flag.mp hflag
  refine ⟨b, scope, hverbose, hscope, by rwa [Shape.holds] at htext, ?_⟩
  rw [RecordKind.shape_eq] at hr
  obtain ⟨_, fs, ns, rfl, -⟩ := Shape.holds_record.mp hr
  rw [toQuery, needed_of_field? hverbose, needed_of_field? hscope]
  rfl

theorem toQuery_filters {kind : RecordKind} (hkind : kind = .listOptions ∨ kind = .pruneOptions) {form : TextForm}
    {r : Value} (hr : kind.shape.holds form r = true) :
    ∃ filters, r.field? "filters" = some filters ∧ (Shape.map (.list .text)).holds form filters = true ∧
      r.toQuery = filters.filtersQuery.mapError .serialization := by
  have hd : Shape.mapField "filters" "Filters" (.list .text) ∈ kind.fields := by
    rcases hkind with rfl | rfl <;> exact List.mem_cons_self
  obtain ⟨filters, hfilters, hholds⟩ :
      ∃ x, r.field? "filters" = some x ∧ (Shape.map (.list .text)).holds form x = true :=
    RecordKind.field?_of_holds hr hd
  refine ⟨filters, hfilters, hholds, ?_⟩
  rw [RecordKind.shape_eq] at hr
  obtain ⟨_, fs, ns, rfl, -⟩ := Shape.holds_record.mp hr
  rcases hkind with rfl | rfl <;>
  · rw [toQuery, needed_of_field? hfilters]
    rfl

theorem toQuery_of_body {kind : RecordKind} (hkind : kind.isOptions = true) (hnone : kind.hasQuery = false)
    {form : TextForm} {r : Value} (hr : kind.shape.holds form r = true) : r.toQuery = .ok [] := by
  rw [RecordKind.shape_eq] at hr
  obtain ⟨_, fs, ns, rfl, -⟩ := Shape.holds_record.mp hr
  cases kind <;> cases hkind <;> cases hnone <;> rfl

end Value

/-! ### What is read in a query -/

/-- The pair that a daemon reads in the query of options with filters: the JSON text of the filters, which says their
decoded content. -/
structure FiltersRead (r : Value) (pairs : List (String × String)) (filters : Value) (text : String) : Prop where
  held : r.field? "filters" = some filters
  pairs : pairs = [("filters", text)]
  parsed : ∀ limits : Json.Limits, 2 ≤ limits.depth →
    ∃ j, Json.parse limits text.toList = .ok j ∧ j.toValue = filters.decoded

/-- The pairs that a daemon reads in the query of options for inspection: the verbosity and the decoded scope. -/
structure InspectionRead (r : Value) (pairs : List (String × String)) (verbose : Bool) (scope : Value) (text : String) :
    Prop where
  verbosity : r.field? "verbose" = some (.bool verbose)
  held : r.field? "scope" = some scope
  decoded : scope.decoded = .text text
  pairs : pairs = [("verbose", if verbose then "true" else "false"), ("scope", text)]

/-- The pairs of a query that are texts. -/
def textPairs (pairs : List (String × String)) : List (Value × Value) := pairs.map fun p => (.text p.1, .text p.2)

theorem optionalQuery_some {r : Value} {query : Option (List (Value × Value))} (h : optionalQuery (some r) = .ok query) :
    ∃ pairs, r.toQuery = .ok pairs ∧ query = some (QueryPair.toRequest pairs) := by
  rw [optionalQuery, map_eq_ok] at h
  obtain ⟨pairs, hpairs, rfl⟩ := h
  exact ⟨pairs, hpairs, rfl⟩

/-- The query of options with filters is one pair of texts, which says the filters. -/
theorem filters_read {kind : RecordKind} (hkind : kind = .listOptions ∨ kind = .pruneOptions) {form : TextForm}
    {r : Value} (hr : kind.shape.holds form r = true) {query : Option (List (Value × Value))}
    (hquery : optionalQuery (some r) = .ok query) :
    ∃ filters text, query = some (textPairs [("filters", text)]) ∧
      FiltersRead r [("filters", text)] filters text := by
  obtain ⟨pairs, hpairs, rfl⟩ := optionalQuery_some hquery
  obtain ⟨filters, hfield, hholds, htoQuery⟩ := Value.toQuery_filters hkind hr
  rw [htoQuery, mapError_eq_ok, Value.filtersQuery, bind_eq_ok] at hpairs
  obtain ⟨text, htext, hpairs⟩ := hpairs
  obtain rfl := Except.ok.inj hpairs
  refine ⟨filters, text, rfl, hfield, rfl, fun limits hdepth => ?_⟩
  rw [Value.serialize, mapError_eq_ok] at htext
  obtain ⟨t, j, ht, -, -⟩ := Value.dump_eq_ok htext
  have hwire : (filters.wireIn (some (.map (.list .text)))).textual = .ok t := by
    rwa [Value.wireIn_of_isFlat (by decide) hholds]
  have hdoc : t.isDocument limits.depth = true := by
    obtain ⟨depth, hlimit⟩ : ∃ d, limits.depth = d + 2 := ⟨limits.depth - 2, by omega⟩
    rw [hlimit]
    exact Value.isDocument_of_textual (by decide) (by simp [Shape.fitsDepth]) hholds hwire
  obtain ⟨j, hparse, hval⟩ := Value.parse_of_dump ht hdoc htext
  exact ⟨j, hparse, hval.trans (Value.textual_of_isFlat (by decide) hholds ht)⟩

/-- The query of options for inspection is two pairs of texts, which say verbosity and scope. -/
theorem inspection_read {form : TextForm} {r : Value} (hr : RecordKind.inspectOptions.shape.holds form r = true)
    {query : Option (List (Value × Value))} (hquery : optionalQuery (some r) = .ok query) :
    ∃ pairs verbose scope text, query = some (textPairs pairs) ∧ InspectionRead r pairs verbose scope text := by
  obtain ⟨pairs, hpairs, rfl⟩ := optionalQuery_some hquery
  obtain ⟨verbose, scope, hverbose, hscope, hholds, htoQuery⟩ := Value.toQuery_inspect hr
  rw [htoQuery, bind_eq_ok] at hpairs
  obtain ⟨t, ht, hpairs⟩ := hpairs
  obtain rfl := Except.ok.inj hpairs
  rw [mapError_eq_ok, Value.serializeText, mapError_eq_ok, Value.asText_eq_textual hholds] at ht
  obtain ⟨text, rfl⟩ := Value.textual_text_of_holds hholds ht
  refine ⟨_, verbose, scope, text, ?_, hverbose, hscope, ?_, rfl⟩
  · rfl
  · rw [Value.decoded_eq_decodedKey hholds, (Value.decodedKey_of_textual hholds ht).1]

/-- A query of text pairs follows the target that is sent without it. -/
theorem Request.target_textPairs (method path : String) (body : Option (List UInt8)) (version : Value)
    {pairs : List (String × String)} (hne : pairs ≠ []) :
    (build method path (some (textPairs pairs)) body).target version =
      (build method path none body).target version ++ String.ofList ('?' :: queryString (textPairs pairs)) := by
  cases pairs with
  | nil => exact absurd rfl hne
  | cons p pairs => rfl

/-! ### Targets tell options apart -/

/-- Records of one kind whose fields agree once octets are read have the same content. -/
theorem fresh_decoded_congr {kind : RecordKind} {form form' : TextForm} {r r' : Value}
    (hr : kind.shape.holds form r = true) (hr' : kind.shape.holds form' r' = true)
    (h : ∀ slot ∈ kind.slots, (r.field? slot.attr).map Value.decoded = (r'.field? slot.attr).map Value.decoded) :
    r.decoded.fresh .characters = r'.decoded.fresh .characters := by
  rw [kind.shape_eq] at hr hr'
  obtain ⟨_, fs, _, rfl, -⟩ := Shape.holds_record.mp hr
  obtain ⟨_, fs', _, rfl, -⟩ := Shape.holds_record.mp hr'
  have hview (fs : Named) : (fs.map fun f => (f.1, f.2.decoded)).map (fun f => (f.1, f.2.fresh .characters)) =
      fs.map fun f => (f.1, f.2.decoded.fresh .characters) := by
    rw [List.map_map]
    rfl
  rw [Value.decoded_record, Value.decoded_record, Value.fresh_record, Value.fresh_record, hview, hview]
  congr 1
  apply List.map_congr_left
  intro slot hslot
  have hfield : (fs.lookup slot.attr).map Value.decoded = (fs'.lookup slot.attr).map Value.decoded := h slot hslot
  have hsplit (fs : Named) : (fs.lookup slot.attr).map (fun v => v.decoded.fresh .characters) =
      ((fs.lookup slot.attr).map Value.decoded).map (Value.fresh .characters) := by
    rw [Option.map_map]
    rfl
  rw [RecordKind.lookup_map fs fun v => v.decoded.fresh .characters,
    RecordKind.lookup_map fs' fun v => v.decoded.fresh .characters, hsplit, hsplit, hfield]

/-- Pairs that are read alike come from filters that are alike once octets are read. -/
theorem FiltersRead.decoded_eq {r r' : Value} {pairs : List (String × String)} {filters filters' : Value}
    {text text' : String} (h : FiltersRead r pairs filters text) (h' : FiltersRead r' pairs filters' text') :
    filters.decoded = filters'.decoded := by
  obtain ⟨rfl⟩ : text = text' := by
    have heq := h.pairs.symm.trans h'.pairs
    simpa using heq
  obtain ⟨j, hj, hval⟩ := h.parsed ⟨2, false⟩ (Nat.le_refl 2)
  obtain ⟨j', hj', hval'⟩ := h'.parsed ⟨2, false⟩ (Nat.le_refl 2)
  obtain rfl := Except.ok.inj (hj.symm.trans hj')
  exact hval.symm.trans hval'

theorem InspectionRead.eq {r r' : Value} {pairs : List (String × String)} {verbose verbose' : Bool}
    {scope scope' : Value} {text text' : String} (h : InspectionRead r pairs verbose scope text)
    (h' : InspectionRead r' pairs verbose' scope' text') : verbose = verbose' ∧ scope.decoded = scope'.decoded := by
  have heq := h.pairs.symm.trans h'.pairs
  simp only [List.cons.injEq, Prod.mk.injEq, true_and, and_true] at heq
  refine ⟨?_, by rw [h.decoded, h'.decoded, heq.2]⟩
  cases verbose <;> cases verbose' <;> simp_all

/-- What a daemon reads in the query of options of a kind. -/
def QueryRead (kind : RecordKind) (r : Value) (pairs : List (String × String)) : Prop :=
  match kind with
  | .inspectOptions => ∃ verbose scope text, InspectionRead r pairs verbose scope text
  | _ => ∃ filters text, FiltersRead r pairs filters text

/-- The query of options is a list of text pairs, in which a daemon reads what the options say. -/
theorem query_read {kind : RecordKind} (hkind : kind.hasQuery = true) {form : TextForm} {r : Value}
    (hr : kind.shape.holds form r = true) {query : Option (List (Value × Value))}
    (hquery : optionalQuery (some r) = .ok query) :
    ∃ pairs, query = some (textPairs pairs) ∧ pairs ≠ [] ∧ QueryRead kind r pairs := by
  have hfilters (hkind : kind = .listOptions ∨ kind = .pruneOptions) :
      ∃ pairs, query = some (textPairs pairs) ∧ pairs ≠ [] ∧ ∃ filters text, FiltersRead r pairs filters text := by
    obtain ⟨filters, text, hpairs, hread⟩ := filters_read hkind hr hquery
    exact ⟨_, hpairs, List.cons_ne_nil _ _, filters, text, hread⟩
  cases kind <;> try cases hkind
  case inspectOptions =>
    obtain ⟨pairs, verbose, scope, text, hpairs, hread⟩ := inspection_read hr hquery
    exact ⟨pairs, hpairs, hread.pairs ▸ List.cons_ne_nil _ _, verbose, scope, text, hread⟩
  case listOptions => exact hfilters (.inl rfl)
  case pruneOptions => exact hfilters (.inr rfl)

/-- Options of one kind in which a daemon reads the same pairs have the same content. -/
theorem content_of_queryRead {kind : RecordKind} (hkind : kind.hasQuery = true) {form form' : TextForm} {r r' : Value}
    (hr : kind.shape.holds form r = true) (hr' : kind.shape.holds form' r' = true) {pairs : List (String × String)}
    (h : QueryRead kind r pairs) (h' : QueryRead kind r' pairs) :
    r.decoded.fresh .characters = r'.decoded.fresh .characters := by
  refine fresh_decoded_congr hr hr' ?_
  have hfilters (h : ∃ filters text, FiltersRead r pairs filters text)
      (h' : ∃ filters text, FiltersRead r' pairs filters text) :
      (r.field? "filters").map Value.decoded = (r'.field? "filters").map Value.decoded := by
    obtain ⟨filters, text, h⟩ := h
    obtain ⟨filters', text', h'⟩ := h'
    rw [h.held, h'.held, Option.map_some, Option.map_some, h.decoded_eq h']
  cases kind <;> try cases hkind
  case inspectOptions =>
    obtain ⟨verbose, scope, text, h⟩ := h
    obtain ⟨verbose', scope', text', h'⟩ := h'
    obtain ⟨rfl, hscope⟩ := h.eq h'
    intro slot hslot
    simp only [RecordKind.slots, List.mem_map] at hslot
    obtain ⟨d, hd, rfl⟩ := hslot
    rcases List.mem_cons.mp hd with rfl | hd
    · exact (congrArg _ h.verbosity).trans (congrArg _ h'.verbosity).symm
    · obtain rfl := List.mem_singleton.mp hd
      have hheld : (r.field? "scope").map Value.decoded = (r'.field? "scope").map Value.decoded := by
        rw [h.held, h'.held, Option.map_some, Option.map_some, hscope]
      exact hheld
  all_goals
    intro slot hslot
    obtain rfl := List.mem_singleton.mp hslot
    exact hfilters h h'

/-- **A daemon reads in the query what the options say.** The target of options is the target without them, a question
mark and a query in which splitting and decoding finds exactly the pairs of the options. No options leave the path as it
is, so no options of these kinds have their target, and options of one kind with one target have one content. -/
theorem target_readsBack {kind : RecordKind} (hkind : kind.hasQuery = true) {form : TextForm} {r : Value}
    (hr : kind.shape.holds form r = true) {query : Option (List (Value × Value))}
    (hquery : optionalQuery (some r) = .ok query) (method path : String) (body : Option (List UInt8))
    (version : Value) :
    (∃ q pairs, (Request.build method path query body).target version =
        (Request.build method path none body).target version ++ String.ofList ('?' :: q) ∧
      Percent.readPairs q = some pairs ∧ QueryRead kind r pairs) ∧
    (optionalQuery none = .ok none ∧ (Request.build method path none body).target version =
      (Request.build method path none body).versionedPath version) ∧
    (Request.build method path query body).target version ≠ (Request.build method path none body).target version ∧
    ∀ {form' : TextForm} {r' : Value} {query' : Option (List (Value × Value))}, kind.shape.holds form' r' = true →
      optionalQuery (some r') = .ok query' →
      (Request.build method path query' body).target version = (Request.build method path query body).target version →
      r'.decoded.fresh .characters = r.decoded.fresh .characters := by
  obtain ⟨pairs, rfl, hne, hread⟩ := query_read hkind hr hquery
  have htarget := Request.target_textPairs method path body version hne
  refine ⟨⟨_, pairs, htarget, Percent.readPairs_queryString hne, hread⟩, ⟨rfl, rfl⟩, fun h => ?_, ?_⟩
  · have hlen := congrArg String.length (htarget.symm.trans h)
    simp at hlen
  · intro form' r' query' hr' hquery' hsame
    obtain ⟨pairs', rfl, hne', hread'⟩ := query_read hkind hr' hquery'
    rw [htarget, Request.target_textPairs method path body version hne'] at hsame
    have hquery : queryString (textPairs pairs') = queryString (textPairs pairs) := by
      have hchars := congrArg String.toList hsame
      rw [String.toList_append, String.toList_append, List.append_cancel_left_eq, String.toList_ofList,
        String.toList_ofList] at hchars
      exact (List.cons.inj hchars).2
    obtain rfl : pairs' = pairs := by
      have hread := Percent.readPairs_queryString hne'
      rw [← textPairs, hquery, textPairs, Percent.readPairs_queryString hne] at hread
      exact (Option.some.inj hread).symm
    exact content_of_queryRead hkind hr' hr hread' hread

/-- Filters with text of both kinds and with signs that mean something to each encoder. -/
def mixedFilters : Value :=
  .record .listOptions .given
    [("filters", .map [(.octets .fixed [0x61, 0x26], .list [.text "é\"=", .octets .fixed [0x25]]), (.text "", .list [])])]
    []

theorem target_readsBack_mixedFilters :
    ∃ q pairs, (Request.build "GET" "/networks"
        (some (textPairs [("filters", "\x7b\"a&\":[\"\\u00e9\\\"=\",\"%\"],\"\":[]\x7d")])) none).target (.text "1.40") =
        "/v1.40/networks" ++ String.ofList ('?' :: q) ∧
      Percent.readPairs q = some pairs ∧ QueryRead .listOptions mixedFilters pairs := by
  have hholds : RecordKind.listOptions.shape.holds .given mixedFilters = true := by decide
  have hquery : optionalQuery (some mixedFilters) =
      .ok (some (textPairs [("filters", "\x7b\"a&\":[\"\\u00e9\\\"=\",\"%\"],\"\":[]\x7d")])) := by rfl
  exact (target_readsBack rfl hholds hquery "GET" "/networks" none (.text "1.40")).1

end DaemonClient
