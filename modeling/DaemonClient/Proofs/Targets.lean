import DaemonClient.Proofs.OwnErrors

/-! A target says which pairs of texts it was made of (`Request.target_spells`). Its query has no characters but those
of a query and no percent sign outside a whole escape, and reads back as the pairs in their order; so two lists of pairs
never make one target. No pairs leave the path as it is, and a version goes before the path, whatever follows. -/

namespace DaemonClient

namespace Percent

/-! ### Escapes -/

/-- A hexadecimal digit as escapes have it. -/
def isHexUpper (c : Char) : Bool := isAsciiDigit c || ('A' ≤ c && c ≤ 'F')

/-- Every percent sign begins an escape: two upper-case hexadecimal digits follow it. -/
def EscapesWhole (cs : List Char) : Prop :=
  ∀ before after, cs = before ++ '%' :: after →
    ∃ high low rest, after = high :: low :: rest ∧ isHexUpper high = true ∧ isHexUpper low = true

namespace EscapesWhole

theorem of_not_mem {cs : List Char} (h : '%' ∉ cs) : EscapesWhole cs := by
  rintro before after rfl
  exact absurd (List.mem_append_right _ List.mem_cons_self) h

theorem escape {high low : Char} (hhigh : isHexUpper high = true) (hlow : isHexUpper low = true) :
    EscapesWhole ['%', high, low] := by
  have hne {c : Char} (hc : isHexUpper c = true) : '%' ≠ c := by
    rintro rfl
    exact absurd hc (by decide)
  intro before after h
  cases before with
  | nil =>
      obtain rfl := (List.cons.inj h).2
      exact ⟨high, low, [], rfl, hhigh, hlow⟩
  | cons c before =>
      -- the percent sign would be one of the two digits
      have hmem : '%' ∈ [high, low] := by
        rw [(List.cons.inj h).2]
        exact List.mem_append_right _ List.mem_cons_self
      simp [hne hhigh, hne hlow] at hmem

/-- Where one text ends and another begins no escape is cut in two. -/
theorem append {cs ds : List Char} (hcs : EscapesWhole cs) (hds : EscapesWhole ds) : EscapesWhole (cs ++ ds) := by
  intro before after h
  rcases List.append_eq_append_iff.mp h with ⟨more, rfl, hmore⟩ | ⟨more, hmore, hafter⟩
  · exact hds more after hmore
  · cases more with
    | nil => exact hds [] after hafter.symm
    | cons c more =>
        obtain ⟨rfl, rfl⟩ := List.cons.inj hafter
        obtain ⟨high, low, rest, rfl, hdigits⟩ := hcs before more hmore
        exact ⟨high, low, rest ++ ds, rfl, hdigits⟩

theorem cons {c : Char} {cs : List Char} (hc : c ≠ '%') (hcs : EscapesWhole cs) : EscapesWhole (c :: cs) := by
  have hc' : EscapesWhole [c] := of_not_mem (by simpa using hc.symm)
  exact append hc' hcs

end EscapesWhole

theorem isHexUpper_hexUpper {n : Nat} (h : n < 16) : isHexUpper (hexUpper n) = true := by
  have hall : ∀ n < 16, isHexUpper (hexUpper n) = true := by decide
  exact hall n h

theorem escapesWhole_encode (bs : List UInt8) : EscapesWhole (encode bs) := by
  induction bs with
  | nil => exact .of_not_mem List.not_mem_nil
  | cons b bs ih =>
      have hb := b.toNat_lt
      rw [encode, List.flatMap_cons]
      refine .append ?_ ih
      simp only [encodeOctet]
      split
      · rename_i hfree
        refine .of_not_mem fun hmem => ?_
        rw [← List.mem_singleton.mp hmem] at hfree
        exact absurd hfree (by decide)
      · exact .escape (isHexUpper_hexUpper (by omega)) (isHexUpper_hexUpper (by omega))

theorem escapesWhole_encodePair (p : String × String) : EscapesWhole (encodePair p) :=
  .append (escapesWhole_encode _) (.cons (by decide) (escapesWhole_encode _))

theorem escapesWhole_joinPairs {parts : List (List Char)} (h : ∀ p ∈ parts, EscapesWhole p) :
    EscapesWhole (joinPairs parts) := by
  induction parts with
  | nil => exact .of_not_mem List.not_mem_nil
  | cons p parts ih =>
      obtain ⟨hp, hparts⟩ := List.forall_mem_cons.mp h
      cases parts with
      | nil => exact hp
      | cons q parts => exact .append hp (.cons (by decide) (ih hparts))

end Percent

/-! ### Targets -/

/-- A query that is made of characters of a query and whole escapes, in which splitting and decoding finds pairs. -/
structure Spells (q : List Char) (pairs : List (String × String)) : Prop where
  chars : ∀ c ∈ q, Percent.isQueryChar c = true
  escapes : Percent.EscapesWhole q
  reads : Percent.readPairs q = some pairs

theorem spells_queryString {pairs : List (String × String)} (hne : pairs ≠ []) :
    Spells (queryString (textPairs pairs)) pairs := by
  refine ⟨fun c hc => isQueryChar_of_mem_queryString hc, ?_, Percent.readPairs_queryString hne⟩
  rw [queryString, textPairs, List.map_map]
  exact Percent.escapesWhole_joinPairs (List.forall_mem_map.mpr fun p _ => Percent.escapesWhole_encodePair p)

namespace Request

/-- The same request with another query. -/
def withQuery (r : Request) (query : Option (List (Value × Value))) : Request := { r with query }

/-- A version that is not empty goes before all else. -/
theorem target_versioned (r : Request) {version : String} (h : version ≠ "") :
    r.target (.text version) = "/v" ++ version ++ r.target .null := by
  have hpath : r.versionedPath (.text version) = "/v" ++ version ++ r.path := by
    rw [versionedPath, if_pos (by simpa [Value.truthy] using h)]
    rfl
  have hplain : r.versionedPath .null = r.path := rfl
  rw [target, target, hpath, hplain]
  split
  · rfl
  · rfl
  · rw [String.append_assoc]

theorem target_withQuery (r : Request) (version : Value) {pairs : List (String × String)} (hne : pairs ≠ []) :
    (r.withQuery (some (textPairs pairs))).target version =
      (r.withQuery none).target version ++ String.ofList ('?' :: queryString (textPairs pairs)) := by
  cases pairs with
  | nil => exact absurd rfl hne
  | cons p pairs => rfl

/-- Two lists of pairs make one target only if they are one list. -/
theorem pairs_of_target (r : Request) (version : Value) {pairs pairs' : List (String × String)}
    (h : (r.withQuery (some (textPairs pairs))).target version =
      (r.withQuery (some (textPairs pairs'))).target version) : pairs = pairs' := by
  have hsome {pairs : List (String × String)} (hne : pairs ≠ []) :
      (r.withQuery (some (textPairs pairs))).target version ≠ (r.withQuery (some (textPairs []))).target version := by
    intro heq
    have hlen := congrArg String.length ((r.target_withQuery version hne).symm.trans heq)
    simp [target, withQuery, textPairs, versionedPath] at hlen
  by_cases hne : pairs = []
  · by_cases hne' : pairs' = []
    · rw [hne, hne']
    · exact absurd (hne ▸ h).symm (hsome hne')
  by_cases hne' : pairs' = []
  · exact absurd (hne' ▸ h) (hsome hne)
  rw [r.target_withQuery version hne, r.target_withQuery version hne'] at h
  have hchars := congrArg String.toList h
  rw [String.toList_append, String.toList_append, List.append_cancel_left_eq, String.toList_ofList,
    String.toList_ofList] at hchars
  have hreads := (spells_queryString hne').reads
  rw [← (List.cons.inj hchars).2, (spells_queryString hne).reads] at hreads
  exact Option.some.inj hreads

/-- **A target says which pairs of texts it was made of.** It is the target without them, a question mark and a query
that spells the pairs, and no other list of pairs makes it. No list of pairs and an empty one leave the path below the
version alone, and a version that is not empty stands before the target that is made without one. -/
theorem target_spells (r : Request) (version : Value) {pairs : List (String × String)} (hne : pairs ≠ []) :
    (∃ q, (r.withQuery (some (textPairs pairs))).target version =
        (r.withQuery none).target version ++ String.ofList ('?' :: q) ∧ Spells q pairs) ∧
    (∀ pairs', (r.withQuery (some (textPairs pairs'))).target version =
        (r.withQuery (some (textPairs pairs))).target version → pairs' = pairs) ∧
    ((r.withQuery none).target version = r.versionedPath version ∧
      (r.withQuery (some [])).target version = r.versionedPath version) ∧
    ∀ query s, s ≠ "" →
      (r.withQuery query).target (.text s) = "/v" ++ s ++ (r.withQuery query).target .null :=
  ⟨⟨_, r.target_withQuery version hne, spells_queryString hne⟩, fun _ h => r.pairs_of_target version h, ⟨rfl, rfl⟩,
    fun query _ hs => (r.withQuery query).target_versioned hs⟩

/-- Signs that mean something to a query, an accent and an empty side. -/
theorem target_spells_signs :
    ∃ q, (Request.withQuery ⟨"GET", "/networks", none, none, []⟩ (some (textPairs [("a&=", "é %"), ("", "+")]))).target
        (.text "1.40") = "/v1.40/networks" ++ String.ofList ('?' :: q) ∧ Spells q [("a&=", "é %"), ("", "+")] :=
  (target_spells ⟨"GET", "/networks", none, none, []⟩ (.text "1.40") (List.cons_ne_nil _ _)).1

end Request

end DaemonClient
