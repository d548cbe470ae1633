import DaemonClient.Proofs.Checked
import DaemonClient.Record.Edit

/-! The states that a record can be in: as a check makes it, as it is made without any check, and as edits leave it.
Edits put anything in its fields, but as long as none replaces all that the record holds at once, no field goes away
(`Reached.keeps`): every field with a fallback is there in every state. -/

namespace DaemonClient
open Outcome

namespace Named

theorem mem_names_put {s : Named} {name a : String} {v : Value} (h : a ∈ s.map (·.1)) :
    a ∈ (s.put name v).map (·.1) := by
  induction s with
  | nil => cases h
  | cons f rest ih =>
      obtain ⟨n, w⟩ := f
      rw [put]
      split
      · exact h
      · rw [List.map_cons, List.mem_cons] at h ⊢
        exact h.imp_right ih

theorem exists_lookup {s : Named} {a : String} (h : a ∈ s.map (·.1)) : ∃ v, s.lookup a = some v := by
  induction s with
  | nil => cases h
  | cons f rest ih =>
      rw [List.lookup_cons]
      split
      · exact ⟨_, rfl⟩
      · rename_i hne
        rw [List.map_cons, List.mem_cons] at h
        exact ih (h.resolve_left fun heq => by simp [heq] at hne)

end Named

/-! ### Edits -/

namespace Value

/-- Putting an entry into a map leaves the keys that are there. -/
theorem mem_keys_insert {es : Entries} {k step new : Value} (h : k ∈ es.map (·.1)) :
    k ∈ (es.insert step new).map (·.1) := by
  induction es with
  | nil => cases h
  | cons e rest ih =>
      obtain ⟨k', v'⟩ := e
      rw [Entries.insert]
      split
      · exact h
      · rw [List.map_cons, List.mem_cons] at h ⊢
        exact h.imp_right ih

theorem putPart_map {es : Entries} {step new w : Value} (h : (map es).putPart step new = .ok w) :
    w = map (es.insert step new) := by
  simp only [putPart] at h
  split at h
  · cases h
  · exact (Except.ok.inj h).symm

/-- Editing a map leaves a map, with the keys that were there. -/
theorem keys_of_edit_map {es : Entries} {path : List Value} {new w : Value} (h : (map es).edit path new = .ok w) :
    ∃ es', w = map es' ∧ ∀ k ∈ es.map (·.1), k ∈ es'.map (·.1) := by
  match path with
  | [] => cases h
  | [step] =>
      rw [edit] at h
      exact ⟨_, putPart_map h, fun _ => mem_keys_insert⟩
  | step :: next :: rest =>
      simp only [edit, bind_eq_ok] at h
      obtain ⟨inner, -, inner', -, h⟩ := h
      exact ⟨_, putPart_map h, fun _ => mem_keys_insert⟩

theorem fieldName_eq_ok {step : Value} {attr : String} (h : step.fieldName = .ok attr) : step = text attr := by
  cases step with
  | text s => rw [Except.ok.inj h]
  | _ => cases h

/-- A record of a kind and a form that has all the declared fields of another. -/
def KeepsFields (kind : RecordKind) (form : TextForm) (fs : Named) (r : Value) : Prop :=
  ∃ fs' ns', r = record kind form fs' ns' ∧ ∀ a ∈ fs.map (·.1), kind.declares a = true → a ∈ fs'.map (·.1)

section

variable {kind : RecordKind} {form : TextForm} {fs ns : Named} {attr : String} {new r : Value}

theorem keepsFields_put (attr : String) (new : Value) (ns : Named) :
    KeepsFields kind form fs (record kind form (fs.put attr new) ns) :=
  ⟨_, ns, rfl, fun _ h _ => Named.mem_names_put h⟩

theorem keepsFields_notes (ns : Named) : KeepsFields kind form fs (record kind form fs ns) :=
  ⟨fs, ns, rfl, fun _ h _ => h⟩

/-- A new part under any name but that of all the record holds leaves its fields. -/
theorem keepsFields_of_putRecordPart (hattr : attr ≠ Record.holdingsName)
    (h : putRecordPart kind form fs ns attr new = .ok r) : KeepsFields kind form fs r := by
  unfold putRecordPart at h
  split at h
  · obtain rfl := Except.ok.inj h
    exact keepsFields_put attr new ns
  split at h
  · cases h
  rw [if_neg (by simpa using hattr)] at h
  split at h
  · cases h
  split at h
  · obtain rfl := Except.ok.inj h
    exact keepsFields_notes _
  · cases h

/-- A record made again from a map that has its names has its fields. -/
theorem keepsFields_holding {es : Entries} (h : ∀ k ∈ (fs ++ ns).toEntries.map (·.1), k ∈ es.map (·.1)) :
    KeepsFields kind form fs (Record.holding kind form es) := by
  have hparted : Record.holding kind form es = record kind form
      ((Named.ofEntries es).filter fun f => kind.declares f.1)
      ((Named.ofEntries es).filter fun f => !kind.declares f.1) := by
    rw [Record.holding, List.partition_eq_filter_filter]
    rfl
  refine ⟨_, _, hparted, fun a ha hdeclared => ?_⟩
  obtain ⟨f, hf, rfl⟩ := List.mem_map.mp ha
  have hkey : text f.1 ∈ (fs ++ ns).toEntries.map (·.1) := by
    rw [Named.toEntries, List.map_map]
    exact List.mem_map.mpr ⟨f, List.mem_append_left _ hf, rfl⟩
  obtain ⟨⟨k, v⟩, he, rfl⟩ := List.mem_map.mp (h _ hkey)
  refine List.mem_map.mpr ⟨(f.1, v), ?_, rfl⟩
  rw [List.mem_filter]
  exact ⟨List.mem_filterMap.mpr ⟨_, he, rfl⟩, hdeclared⟩

/-- What is under the name of all a record holds is a map of it. -/
theorem part_holdings : (record kind form fs ns).part (text Record.holdingsName) = .ok (map (fs ++ ns).toEntries) := by
  rfl

theorem putRecordPart_holdings (kind : RecordKind) (form : TextForm) (fs ns : Named) (es : Entries) :
    putRecordPart kind form fs ns Record.holdingsName (map es) = .ok (Record.holding kind form es) := by
  cases kind <;> rfl

/-- **An edit leaves a record its fields**, unless it replaces all that the record holds. -/
theorem keepsFields_of_edit {path : List Value} (hpath : path ≠ [text Record.holdingsName])
    (h : (record kind form fs ns).edit path new = .ok r) : KeepsFields kind form fs r := by
  match path with
  | [] => cases h
  | [step] =>
      rw [edit, putPart, bind_eq_ok] at h
      obtain ⟨attr, hattr, h⟩ := h
      obtain rfl := fieldName_eq_ok hattr
      exact keepsFields_of_putRecordPart (fun heq => hpath (by rw [heq])) h
  | step :: next :: rest =>
      simp only [edit, bind_eq_ok] at h
      obtain ⟨inner, hpart, inner', hinner, h⟩ := h
      obtain ⟨attr, hattr⟩ : ∃ attr, step = text attr := by
        simp only [part, bind_eq_ok] at hpart
        obtain ⟨attr, hname, -⟩ := hpart
        exact ⟨attr, fieldName_eq_ok hname⟩
      subst hattr
      -- a path through all the record holds edits a map of it, and the record is made again from that map
      by_cases hholdings : attr = Record.holdingsName
      · subst hholdings
        rw [part_holdings] at hpart
        obtain rfl := Except.ok.inj hpart
        obtain ⟨es, rfl, hkeys⟩ := keys_of_edit_map hinner
        rw [replacePart, if_pos (by decide), putRecordPart_holdings] at h
        obtain rfl := Except.ok.inj h
        exact keepsFields_holding hkeys
      · simp only [replacePart, beq_iff_eq, if_neg hholdings] at h
        split at h
        · obtain rfl := Except.ok.inj h
          exact keepsFields_put attr inner' ns
        split at h
        · obtain rfl := Except.ok.inj h
          exact keepsFields_notes _
        · obtain rfl := Except.ok.inj h
          exact keepsFields_notes _

end

end Value

/-! ### States -/

namespace RecordKind

variable {kind : RecordKind}

/-- The states of a record of a kind: as a check makes it, as it is made without any check, and as edits leave it that
do not replace all it holds. -/
inductive Reached (kind : RecordKind) : Value → Prop
  /-- A check that does not take a record as it is makes one. -/
  | checked {form : TextForm} {v r : Value} (made : kind.accepts (kind.formOf form) v = false)
      (check : kind.check form v = .ok r) : kind.Reached r
  | unchecked (form : TextForm) (es : Entries) : kind.Reached (kind.unchecked form es)
  | edited {r r' : Value} {path : List Value} {new : Value} (before : kind.Reached r)
      (partly : path ≠ [.text Record.holdingsName]) (edit : r.edit path new = .ok r') : kind.Reached r'

/-- A record of the kind that holds something in each field with a fallback. -/
def Keeps (kind : RecordKind) (r : Value) : Prop :=
  ∃ form fs ns, r = .record kind form fs ns ∧ ∀ s ∈ kind.slots, s.fallback.isSome = true → s.attr ∈ fs.map (·.1)

/-- A check that makes a record fills its declared fields, in declared order. -/
theorem attrs_of_check {form : TextForm} {v r : Value} (hmade : kind.accepts (kind.formOf form) v = false)
    (h : kind.check form v = .ok r) : ∃ form fs, r = .record kind form fs [] ∧ fs.map (·.1) = kind.slots.map (·.attr) := by
  rw [check, shape_eq, Shape.check, if_neg (by simp [hmade])] at h
  split at h
  · obtain ⟨fs, hfs, rfl⟩ := map_eq_ok.mp h
    refine ⟨_, fs, rfl, ?_⟩
    rw [Shape.attrs_of_checked ((Shape.checkFields_eq_ok.mp hfs).imp fun _ _ hf => hf.1), slots, List.map_map]
    rfl
  · cases h

theorem declares_of_mem {s : Slot} (hs : s ∈ kind.slots) : kind.declares s.attr = true := by
  rw [declares, List.contains_iff_mem]
  exact List.mem_map.mpr ⟨s, hs, rfl⟩

theorem keeps_of_check {form : TextForm} {v r : Value} (hmade : kind.accepts (kind.formOf form) v = false)
    (h : kind.check form v = .ok r) : kind.Keeps r := by
  obtain ⟨form, fs, rfl, hattrs⟩ := attrs_of_check hmade h
  refine ⟨form, fs, [], rfl, fun s hs _ => ?_⟩
  rw [hattrs]
  exact List.mem_map.mpr ⟨s, hs, rfl⟩

theorem keeps_unchecked (form : TextForm) (es : Entries) : kind.Keeps (kind.unchecked form es) := by
  refine ⟨_, _, [], rfl, fun s hs hfallback => ?_⟩
  obtain ⟨v, hv⟩ : ∃ v, s.takeUnchecked es = some (s.attr, v) := by
    obtain ⟨f, hf⟩ := Option.isSome_iff_exists.mp hfallback
    rw [Slot.takeUnchecked]
    split
    · exact ⟨_, rfl⟩
    · exact ⟨f.value, by rw [hf]; rfl⟩
  exact List.mem_map.mpr ⟨_, List.mem_filterMap.mpr ⟨s, hs, hv⟩, rfl⟩

theorem keeps_of_edit {r r' new : Value} {path : List Value} (h : kind.Keeps r)
    (hpath : path ≠ [.text Record.holdingsName]) (hedit : r.edit path new = .ok r') : kind.Keeps r' := by
  obtain ⟨form, fs, ns, rfl, hfs⟩ := h
  obtain ⟨fs', ns', rfl, hkeeps⟩ := Value.keepsFields_of_edit hpath hedit
  exact ⟨form, fs', ns', rfl, fun s hs hfallback => hkeeps s.attr (hfs s hs hfallback) (declares_of_mem hs)⟩

/-- **In every state a record holds something in each field with a fallback.** -/
theorem Reached.keeps {r : Value} (h : kind.Reached r) : kind.Keeps r := by
  induction h with
  | checked made check => exact keeps_of_check made check
  | unchecked form es => exact keeps_unchecked form es
  | edited _ partly edit ih => exact keeps_of_edit ih partly edit

end RecordKind
end DaemonClient
