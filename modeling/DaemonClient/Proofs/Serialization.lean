import DaemonClient.Proofs.Encoded
import DaemonClient.Proofs.States

/-! When options can be sent (`serialization_settled`). A value is serialized exactly if it has a JSON form, and every
other one fails as one that has none. So do the body of a record, by its wire form, and the query of listing and
pruning, by the filters that the record holds; in every state that edits leave a record in, it holds some. -/

namespace DaemonClient
open Outcome

/-- Something is made exactly if it is possible; else the fault is the want of a JSON form, told in a way. -/
structure Settled {ε α : Type} (told : SerializationFault → ε) (possible : Bool) (x : Except ε α) : Prop where
  made : possible = true → ∃ a, x = .ok a
  refused : possible = false → ∃ f, x = .error (told (.json f))

namespace Settled

variable {ε α β : Type} {possible : Bool} {x : Except SerializationFault α}

theorem map (h : Settled id possible x) (g : α → β) : Settled id possible (g <$> x) := by
  constructor
  · intro hpossible
    obtain ⟨a, ha⟩ := h.made hpossible
    exact ⟨g a, by rw [ha, map_ok]⟩
  · intro hnot
    obtain ⟨f, hf⟩ := h.refused hnot
    exact ⟨f, by rw [hf, map_error]⟩

theorem mapError (h : Settled id possible x) (told : SerializationFault → ε) :
    Settled told possible (x.mapError told) := by
  constructor
  · intro hpossible
    obtain ⟨a, ha⟩ := h.made hpossible
    exact ⟨a, by rw [ha, mapError_ok]⟩
  · intro hnot
    obtain ⟨f, hf⟩ := h.refused hnot
    exact ⟨f, by rw [hf, mapError_error, id]⟩

end Settled

namespace Value

theorem settled_serialize (v : Value) : Settled id v.isWritable v.serialize := by
  constructor
  · intro hwritable
    obtain ⟨s, hs⟩ := dump_iff.mpr hwritable
    exact ⟨s, by rw [serialize, hs, mapError_ok]⟩
  · intro hnot
    cases hdump : v.dump with
    | ok s => rw [dump_iff.mp ⟨s, hdump⟩] at hnot; cases hnot
    | error f => exact ⟨f, by rw [serialize, hdump, mapError_error]; rfl⟩

theorem settled_bodyOctets (kind : RecordKind) (form : TextForm) (fs ns : Named) :
    Settled .serialization (record kind form fs ns).toWire.isWritable (record kind form fs ns).bodyOctets :=
  ((settled_serialize (record kind form fs ns).toWire).map Utf8.encode).mapError OptionsFault.serialization

theorem settled_filtersQuery (filters : Value) : Settled id filters.isWritable filters.filtersQuery :=
  (settled_serialize filters).map fun s => [("filters", text s)]

/-- The query of listing and pruning is made of the filters that the options hold. -/
theorem settled_toQuery {kind : RecordKind} (hkind : kind = .listOptions ∨ kind = .pruneOptions) {form : TextForm}
    {fs ns : Named} {filters : Value} (h : fs.lookup "filters" = some filters) :
    Settled .serialization filters.isWritable (record kind form fs ns).toQuery := by
  have hneeded : (record kind form fs ns).needed "filters" = .ok filters := by
    rw [needed, field?, h]
  have hquery : (record kind form fs ns).toQuery = filters.filtersQuery.mapError .serialization := by
    rcases hkind with rfl | rfl <;> simp only [toQuery, hneeded, bind_ok]
  rw [hquery]
  exact (settled_filtersQuery filters).mapError OptionsFault.serialization

end Value

/-- In every state options of listing and pruning hold filters. -/
theorem RecordKind.Reached.filters {kind : RecordKind} (hkind : kind = .listOptions ∨ kind = .pruneOptions) {r : Value}
    (hr : kind.Reached r) : ∃ form fs ns filters, r = .record kind form fs ns ∧ fs.lookup "filters" = some filters := by
  obtain ⟨form, fs, ns, rfl, hfs⟩ := hr.keeps
  have hslot : (⟨"filters", "Filters", some ⟨.map [], true⟩, false⟩ : Slot) ∈ kind.slots := by
    rcases hkind with rfl | rfl <;> exact List.mem_cons_self
  obtain ⟨filters, hfilters⟩ := Named.exists_lookup (hfs _ hslot rfl)
  exact ⟨form, fs, ns, filters, rfl, hfilters⟩

/-- **Values, bodies and queries are made exactly if they have a JSON form**, and fail for want of one in every other
case. For a query the options have to hold filters, which they do in every state. -/
theorem serialization_settled :
    (∀ v : Value, Settled id v.isWritable v.serialize) ∧
    (∀ kind form fs ns, Settled .serialization (Value.record kind form fs ns).toWire.isWritable
      (Value.record kind form fs ns).bodyOctets) ∧
    (∀ kind : RecordKind, kind = .listOptions ∨ kind = .pruneOptions →
      (∀ form fs ns filters, fs.lookup "filters" = some filters →
        Settled .serialization filters.isWritable (Value.record kind form fs ns).toQuery) ∧
      ∀ r, kind.Reached r → ∃ form fs ns filters,
        r = .record kind form fs ns ∧ fs.lookup "filters" = some filters) := by
  refine ⟨Value.settled_serialize, Value.settled_bodyOctets, fun kind hkind => ⟨?_, ?_⟩⟩
  · exact fun form fs ns filters => Value.settled_toQuery hkind
  · exact fun r => RecordKind.Reached.filters hkind

/-- Options of listing whose filters are of a foreign type. -/
def foreignFilters : Value := .record .listOptions .characters [("filters", .foreign "object")] []

theorem serialization_settled_foreignFilters :
    RecordKind.listOptions.Reached foreignFilters ∧
      (∃ f, foreignFilters.toQuery = .error (.serialization (.json f))) ∧
      ∃ form fs ns filters, foreignFilters = .record .listOptions form fs ns ∧ fs.lookup "filters" = some filters := by
  have hedit : (RecordKind.listOptions.unchecked .characters []).edit [.text "filters"] (.foreign "object") =
      .ok foreignFilters := rfl
  have hreached : RecordKind.listOptions.Reached foreignFilters :=
    .edited (.unchecked .characters []) (by simp [Record.holdingsName]) hedit
  obtain ⟨-, -, hqueries⟩ := serialization_settled
  obtain ⟨hquery, hstates⟩ := hqueries .listOptions (.inl rfl)
  exact ⟨hreached, (hquery .characters _ [] _ rfl).refused rfl, hstates foreignFilters hreached⟩

/-- Options of listing that were checked and then had all they hold replaced by nothing have no filters, and their query
fails for want of that field. -/
theorem toQuery_emptied :
    ∃ r r', RecordKind.listOptions.check .characters (.map []) = .ok r ∧
      r.edit [.text Record.holdingsName] (.map []) = .ok r' ∧
      r'.toQuery = .error (.absent "ListNetworksOptions[str]" "filters") := ⟨_, _, rfl, rfl, rfl⟩

end DaemonClient
