import DaemonClient.Proofs.MemberNames
import DaemonClient.Proofs.Query
import DaemonClient.Proofs.Serialization

/-! What a request is given for a query (`query_ends`). The pairs are text, or the options cannot be serialized, as long
as the fields that the query is made of are there and a scope is text. They are there in every state; but the scope of
an unchecked or edited record can be anything, and what is no text is passed on as it is. -/

namespace DaemonClient
open Outcome

/-- A query in which all is text, or a fault of serialization in its place. -/
def SpeaksText (query : Except OptionsFault (Option (List (Value × Value)))) : Prop :=
  (∃ pairs, query = .ok (some (textPairs pairs))) ∨ ∃ f, query = .error (.serialization f)

namespace RecordKind

/-- The fields that the query of options is made of. -/
def queryFields : RecordKind → List String
  | inspectOptions => ["verbose", "scope"]
  | listOptions => ["filters"]
  | pruneOptions => ["filters"]
  | _ => []

/-- Fields of options that hold something for each part of the query. -/
def HoldsQuery (kind : RecordKind) (fs : Named) : Prop := ∀ a ∈ kind.queryFields, ∃ x, fs.lookup a = some x

/-- Options of inspection whose scope is neither text nor octets. -/
def Misscoped (kind : RecordKind) (fs : Named) : Prop :=
  kind = inspectOptions ∧ ∃ scope, fs.lookup "scope" = some scope ∧ scope.isTextLike = false

/-- In every state options hold something for each part of their query. -/
theorem Reached.holdsQuery {kind : RecordKind} {r : Value} (h : kind.Reached r) :
    ∃ form fs ns, r = .record kind form fs ns ∧ kind.HoldsQuery fs := by
  obtain ⟨form, fs, ns, rfl, hfs⟩ := h.keeps
  refine ⟨form, fs, ns, rfl, fun a ha => ?_⟩
  obtain ⟨s, hs, hfallback, rfl⟩ : ∃ s ∈ kind.slots, s.fallback.isSome = true ∧ s.attr = a := by
    cases kind <;> simp only [queryFields, List.mem_cons, List.not_mem_nil, or_false] at ha
    case inspectOptions => rcases ha with rfl | rfl <;> decide
    all_goals
      subst ha
      decide
  exact Named.exists_lookup (hfs s hs hfallback)

end RecordKind

namespace Value

variable {form : TextForm} {fs ns : Named}

/-- Text and octets that read as text are a text for the query; all else is passed on as it is. -/
theorem serializeText_cases (v : Value) :
    (v.isTextLike = true ∧ ((∃ t, v.serializeText = .ok (text t)) ∨ ∃ f, v.serializeText = .error f)) ∨
      (v.isTextLike = false ∧ v.serializeText = .ok v) := by
  cases v with
  | text s => exact .inl ⟨rfl, .inl ⟨s, rfl⟩⟩
  | octets holder bs =>
      refine .inl ⟨rfl, ?_⟩
      rw [serializeText, asText]
      cases decodeText bs with
      | ok t => exact .inl ⟨t, rfl⟩
      | error f => exact .inr ⟨.text f, rfl⟩
  | _ => exact .inr ⟨rfl, rfl⟩

theorem optionalQuery_inspect {verbose scope : Value} (hverbose : fs.lookup "verbose" = some verbose)
    (hscope : fs.lookup "scope" = some scope) :
    optionalQuery (some (record .inspectOptions form fs ns)) =
      (scope.serializeText.mapError .serialization).map fun s =>
        some [(text "verbose", text verbose.flagText), (text "scope", s)] := by
  have hverbose : (record .inspectOptions form fs ns).needed "verbose" = .ok verbose := needed_of_field? hverbose
  have hscope : (record .inspectOptions form fs ns).needed "scope" = .ok scope := needed_of_field? hscope
  rw [optionalQuery, toQuery, hverbose, bind_ok, hscope, bind_ok]
  cases scope.serializeText <;> rfl

theorem optionalQuery_filters {kind : RecordKind} (hkind : kind = .listOptions ∨ kind = .pruneOptions)
    {filters : Value} (h : fs.lookup "filters" = some filters) :
    optionalQuery (some (record kind form fs ns)) =
      (filters.serialize.mapError .serialization).map fun s => some (textPairs [("filters", s)]) := by
  have hfilters : (record kind form fs ns).needed "filters" = .ok filters := needed_of_field? h
  rcases hkind with rfl | rfl <;>
  · rw [optionalQuery, toQuery, hfilters, bind_ok, filtersQuery]
    cases filters.serialize <;> rfl

/-- Without a field that the query is made of there is none, for want of that field. -/
theorem optionalQuery_absent {kind : RecordKind} (hkind : kind.hasQuery = true) (form : TextForm) (ns : Named)
    (h : ¬ kind.HoldsQuery fs) :
    ∃ attr ∈ kind.queryFields, fs.lookup attr = none ∧
      optionalQuery (some (record kind form fs ns)) = .error (.absent (kind.nameWith form) attr) := by
  have habsent (attr : String) (hattr : fs.lookup attr = none) :
      (record kind form fs ns).needed attr = .error (.absent (kind.nameWith form) attr) := by
    rw [needed, field?, hattr]
    rfl
  obtain ⟨attr, hmem, hattr⟩ : ∃ attr ∈ kind.queryFields, fs.lookup attr = none := by
    by_contra hall
    push Not at hall
    exact h fun a ha => Option.ne_none_iff_exists'.mp (hall a ha)
  cases kind <;> cases hkind
  case inspectOptions =>
    -- the verbosity is asked for first
    cases hverbose : fs.lookup "verbose" with
    | none =>
        refine ⟨"verbose", List.mem_cons_self, hverbose, ?_⟩
        rw [optionalQuery, toQuery, habsent "verbose" hverbose, bind_error, map_error]
    | some verbose =>
        obtain rfl : attr = "scope" := by
          rcases List.mem_pair.mp hmem with rfl | rfl
          · rw [hverbose] at hattr
            cases hattr
          · rfl
        have hneeded : (record .inspectOptions form fs ns).needed "verbose" = .ok verbose := needed_of_field? hverbose
        refine ⟨"scope", hmem, hattr, ?_⟩
        rw [optionalQuery, toQuery, hneeded, bind_ok, habsent "scope" hattr, bind_error, map_error]
  all_goals
    obtain rfl := List.mem_singleton.mp hmem
    exact ⟨"filters", hmem, hattr, by rw [optionalQuery, toQuery, habsent "filters" hattr, bind_error, map_error]⟩

end Value

/-- How the query of a record of a kind ends, by the fields of the record. -/
structure QueryEnds (kind : RecordKind) (form : TextForm) (fs : Named)
    (query : Except OptionsFault (Option (List (Value × Value)))) : Prop where
  /-- All is text, or the fault is one of serialization, exactly if nothing is absent and the scope is text. -/
  inText : SpeaksText query ↔ kind.HoldsQuery fs ∧ ¬ kind.Misscoped fs
  absent : ¬ kind.HoldsQuery fs →
    ∃ attr ∈ kind.queryFields, fs.lookup attr = none ∧ query = .error (.absent (kind.nameWith form) attr)
  /-- A scope that is no text is passed on as it is. -/
  passedOn : kind.Misscoped fs → ∀ verbose scope, fs.lookup "verbose" = some verbose →
    fs.lookup "scope" = some scope →
      query = .ok (some [(.text "verbose", .text verbose.flagText), (.text "scope", scope)])

section

variable {kind : RecordKind} {form : TextForm} {fs : Named} {ns : Named}

/-- What is made of the fields that a query needs is text, or could not be serialized, unless the scope is no text. -/
theorem speaksText_of_holdsQuery (hkind : kind.hasQuery = true) (hfs : kind.HoldsQuery fs)
    (hscoped : ¬ kind.Misscoped fs) : SpeaksText (optionalQuery (some (.record kind form fs ns))) := by
  have hfilters (hkind : kind = .listOptions ∨ kind = .pruneOptions) :
      SpeaksText (optionalQuery (some (.record kind form fs ns))) := by
    obtain ⟨filters, hfilters⟩ := hfs "filters" (by rcases hkind with rfl | rfl <;> exact List.mem_cons_self)
    rw [Value.optionalQuery_filters hkind hfilters]
    cases filters.serialize with
    | ok s => exact .inl ⟨_, rfl⟩
    | error f => exact .inr ⟨f, rfl⟩
  cases kind <;> cases hkind
  case listOptions => exact hfilters (.inl rfl)
  case pruneOptions => exact hfilters (.inr rfl)
  obtain ⟨verbose, hverbose⟩ := hfs "verbose" List.mem_cons_self
  obtain ⟨scope, hscope⟩ := hfs "scope" (List.mem_cons_of_mem _ List.mem_cons_self)
  rw [Value.optionalQuery_inspect hverbose hscope]
  rcases scope.serializeText_cases with ⟨-, ⟨t, ht⟩ | ⟨f, hf⟩⟩ | ⟨hnot, -⟩
  · rw [ht]
    exact .inl ⟨[("verbose", verbose.flagText), ("scope", t)], rfl⟩
  · rw [hf]
    exact .inr ⟨f, rfl⟩
  · exact absurd ⟨rfl, scope, hscope, hnot⟩ hscoped

/-- A scope that is no text comes out as it is. -/
theorem query_of_misscoped (h : kind.Misscoped fs) {verbose scope : Value}
    (hverbose : fs.lookup "verbose" = some verbose) (hscope : fs.lookup "scope" = some scope) :
    optionalQuery (some (.record kind form fs ns)) =
      .ok (some [(.text "verbose", .text verbose.flagText), (.text "scope", scope)]) := by
  obtain ⟨rfl, scope', hscope', hnot⟩ := h
  obtain rfl := Option.some.inj (hscope'.symm.trans hscope)
  rw [Value.optionalQuery_inspect hverbose hscope]
  rcases scope'.serializeText_cases with ⟨htext, -⟩ | ⟨-, hserial⟩
  · rw [htext] at hnot
    cases hnot
  · rw [hserial]
    rfl

theorem not_speaksText_of_misscoped (hfs : kind.HoldsQuery fs) (h : kind.Misscoped fs) :
    ¬ SpeaksText (optionalQuery (some (.record kind form fs ns))) := by
  obtain ⟨hkind, scope, hscope, hnot⟩ := h
  obtain ⟨verbose, hverbose⟩ := hfs "verbose" (by rw [hkind]; exact List.mem_cons_self)
  rw [query_of_misscoped ⟨hkind, scope, hscope, hnot⟩ hverbose hscope]
  rintro (⟨pairs, hpairs⟩ | ⟨f, hf⟩)
  · have hmem : (.text "scope", scope) ∈ textPairs pairs := by
      rw [← Option.some.inj (Except.ok.inj hpairs)]
      exact List.mem_cons_of_mem _ List.mem_cons_self
    obtain ⟨p, -, hp⟩ := List.mem_map.mp hmem
    rw [← (Prod.mk.inj hp).2] at hnot
    cases hnot
  · cases hf

/-- **The query of a record is text, or cannot be serialized, exactly if nothing is absent and the scope is text.** -/
theorem query_ends (hkind : kind.hasQuery = true) :
    (∀ form fs ns, QueryEnds kind form fs (optionalQuery (some (.record kind form fs ns)))) ∧
      ∀ r, kind.Reached r → ∃ form fs ns, r = .record kind form fs ns ∧ kind.HoldsQuery fs := by
  refine ⟨fun form fs ns => ⟨?_, Value.optionalQuery_absent hkind form ns, ?_⟩, fun r => RecordKind.Reached.holdsQuery⟩
  · constructor
    · intro htext
      have hfs : kind.HoldsQuery fs := by
        by_contra hnot
        obtain ⟨attr, -, -, hquery⟩ := Value.optionalQuery_absent hkind form ns hnot
        rw [hquery] at htext
        rcases htext with ⟨pairs, hpairs⟩ | ⟨f, hf⟩
        · cases hpairs
        · cases hf
      exact ⟨hfs, fun hmisscoped => not_speaksText_of_misscoped hfs hmisscoped htext⟩
    · rintro ⟨hfs, hscoped⟩
      exact speaksText_of_holdsQuery hkind hfs hscoped
  · exact fun hmisscoped verbose scope => query_of_misscoped hmisscoped

end

/-- Options of inspection, made by a check of nothing, whose scope was then set to null. -/
def nullScope : Value := .record .inspectOptions .characters [("verbose", .bool false), ("scope", .null)] []

theorem reached_nullScope : RecordKind.inspectOptions.Reached nullScope := by
  have hcheck : RecordKind.inspectOptions.check .characters (.map []) =
      .ok (.record .inspectOptions .characters [("verbose", .bool false), ("scope", .text "")] []) := rfl
  have hedit : (Value.record .inspectOptions .characters [("verbose", .bool false), ("scope", .text "")] []).edit
      [.text "scope"] .null = .ok nullScope := rfl
  exact .edited (.checked rfl hcheck) (by simp [Record.holdingsName]) hedit

theorem query_ends_nullScope :
    RecordKind.inspectOptions.hasQuery = true ∧
      QueryEnds .inspectOptions .characters [("verbose", .bool false), ("scope", .null)]
        (optionalQuery (some nullScope)) ∧
      ∃ form fs ns, nullScope = .record .inspectOptions form fs ns ∧ RecordKind.inspectOptions.HoldsQuery fs := by
  have hkind : RecordKind.inspectOptions.hasQuery = true := rfl
  obtain ⟨hquery, hstates⟩ := query_ends hkind
  exact ⟨rfl, hquery .characters _ [], hstates nullScope reached_nullScope⟩

/-- A scope of null is passed on to the request. -/
theorem query_passesNull :
    RecordKind.inspectOptions.Reached nullScope ∧
      optionalQuery (some nullScope) = .ok (some [(.text "verbose", .text "false"), (.text "scope", .null)]) ∧
      ¬ SpeaksText (optionalQuery (some nullScope)) := by
  refine ⟨reached_nullScope, rfl, ?_⟩
  obtain ⟨form, fs, ns, heq, hfs⟩ := reached_nullScope.holdsQuery
  obtain ⟨-, rfl, rfl, rfl⟩ := Value.record.inj heq
  exact not_speaksText_of_misscoped hfs ⟨rfl, .null, rfl, rfl⟩

end DaemonClient
