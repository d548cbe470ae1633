import DaemonClient.Address.Authority
import DaemonClient.Http.RequestText

/-! Host names in lower case. Lower case takes no character away (`Text.lowerAfter_eq_nil`), and it leaves blanks and
control characters as they are and makes none (`Text.any_breaksTarget_lowerAfter`). So a host has a name exactly if it is
written with one (`hostName_ne_empty`), and what no connection can be made to shows in the host as it is written
(`any_breaksTarget_hostName`). -/

namespace DaemonClient

theorem breaksTarget_iff {c : Char} : breaksTarget c = true ↔ c.toNat ≤ 0x20 ∨ c.toNat = 0x7F := by
  simp only [breaksTarget, Char.toNat, Bool.or_eq_true, decide_eq_true_eq, beq_iff_eq, UInt32.le_iff_toNat_le,
    ← UInt32.toNat_inj, UInt32.reduceToNat]

namespace Text

/-- A run of characters with a lower partner, whose bounds and partners are no blanks and no control characters. -/
def isPlainRun (r : Nat × Nat × Nat × Int) : Bool :=
  0x20 < r.1 && (r.2.1 < 0x7F || 0x7F < r.1) && (0x20 : Int) < r.1 + r.2.2.2 &&
    ((r.2.1 : Int) + r.2.2.2 < 0x7F || (0x7F : Int) < r.1 + r.2.2.2) &&
    ((r.2.1 : Int) + r.2.2.2 < 0xD800 || ((0xDFFF : Int) < r.1 + r.2.2.2 && (r.2.1 : Int) + r.2.2.2 < 0x110000))

theorem isPlainRun_of_mem : ∀ r ∈ lowerRuns, isPlainRun r = true := by decide +kernel

theorem toNat_ofNat_of_valid {n : Nat} (h : n < 0xD800 ∨ (0xDFFF < n ∧ n < 0x110000)) : (Char.ofNat n).toNat = n := by
  rw [Char.ofNat, dif_pos h]
  rfl

/-- A character of a run, and its partner, are no blanks and no control characters. -/
theorem breaksTarget_of_run {r : Nat × Nat × Nat × Int} (hr : isPlainRun r = true) {c : Char} (hfirst : r.1 ≤ c.toNat)
    (hlast : c.toNat ≤ r.2.1) :
    breaksTarget c = false ∧ breaksTarget (Char.ofNat (c.toNat + r.2.2.2).toNat) = false := by
  simp only [isPlainRun, Bool.and_eq_true, Bool.or_eq_true, decide_eq_true_eq] at hr
  obtain ⟨⟨⟨⟨hlow, hself⟩, hpartner⟩, hdelete⟩, hvalid⟩ := hr
  have hcode : (Char.ofNat (c.toNat + r.2.2.2).toNat).toNat = (c.toNat + r.2.2.2).toNat :=
    toNat_ofNat_of_valid (by omega)
  constructor
  · rw [← Bool.not_eq_true, breaksTarget_iff]
    omega
  · rw [← Bool.not_eq_true, breaksTarget_iff, hcode]
    omega

theorem lowerChar_cases (c : Char) : lowerChar c = [c] ∨
    (breaksTarget c = false ∧ lowerChar c ≠ [] ∧ (lowerChar c).any breaksTarget = false) := by
  rw [lowerChar]
  split
  · rename_i cs hlookup
    -- the one character whose lower form is two characters
    have hcases : c.toNat = 0x130 ∧ cs = [0x69, 0x307] := by
      rw [lowerExpansions, List.lookup_cons] at hlookup
      split at hlookup
      · rename_i hcode
        exact ⟨beq_iff_eq.mp hcode, (Option.some.inj hlookup).symm⟩
      · cases hlookup
    obtain ⟨hcode, rfl⟩ := hcases
    refine .inr ⟨?_, List.cons_ne_nil _ _, by decide⟩
    rw [← Bool.not_eq_true, breaksTarget_iff]
    omega
  · split
    · rename_i r hfind
      have hrange := List.find?_some hfind
      simp only [Bool.and_eq_true, decide_eq_true_eq] at hrange
      obtain ⟨hself, hpartner⟩ :=
        breaksTarget_of_run (isPlainRun_of_mem r (List.mem_of_find?_eq_some hfind)) hrange.1.1 hrange.1.2
      exact .inr ⟨hself, List.cons_ne_nil _ _, by rw [List.any_cons, hpartner]; rfl⟩
    · exact .inl rfl

theorem lowerChar_ne_nil (c : Char) : lowerChar c ≠ [] := by
  rcases lowerChar_cases c with hsame | ⟨-, hne, -⟩
  · rw [hsame]
    exact List.cons_ne_nil _ _
  · exact hne

theorem any_breaksTarget_lowerChar (c : Char) : (lowerChar c).any breaksTarget = breaksTarget c := by
  rcases lowerChar_cases c with hsame | ⟨hself, -, hnone⟩
  · rw [hsame, List.any_cons, List.any_nil, Bool.or_false]
  · rw [hself, hnone]

/-- The lower form of a character among others. -/
def lowerIn (before rest : List Char) (c : Char) : List Char :=
  if c == 'Σ' then [if endsWord before rest then 'ς' else 'σ'] else lowerChar c

theorem lowerAfter_cons (before rest : List Char) (c : Char) :
    lowerAfter before (c :: rest) = lowerIn before rest c ++ lowerAfter (c :: before) rest := rfl

theorem lowerIn_ne_nil (before rest : List Char) (c : Char) : lowerIn before rest c ≠ [] := by
  rw [lowerIn]
  split
  · exact List.cons_ne_nil _ _
  · exact lowerChar_ne_nil c

theorem any_breaksTarget_lowerIn (before rest : List Char) (c : Char) :
    (lowerIn before rest c).any breaksTarget = breaksTarget c := by
  rw [lowerIn]
  split
  · rename_i hsigma
    rw [beq_iff_eq.mp hsigma]
    split <;> decide
  · exact any_breaksTarget_lowerChar c

theorem lowerAfter_eq_nil {before cs : List Char} (h : lowerAfter before cs = []) : cs = [] := by
  cases cs with
  | nil => rfl
  | cons c rest =>
      rw [lowerAfter_cons, List.append_eq_nil_iff] at h
      exact absurd h.1 (lowerIn_ne_nil before rest c)

/-- **Lower case makes and takes no blanks and no control characters.** -/
theorem any_breaksTarget_lowerAfter (before cs : List Char) :
    (lowerAfter before cs).any breaksTarget = cs.any breaksTarget := by
  induction cs generalizing before with
  | nil => rfl
  | cons c rest ih => rw [lowerAfter_cons, List.any_append, any_breaksTarget_lowerIn, ih, List.any_cons]

end Text

namespace Authority

theorem toList_hostName (host : List Char) :
    (hostName host).toList = Text.lowerAfter [] (host.takeWhile (· != '%')) ++ host.dropWhile (· != '%') := by
  rw [hostName, Text.lower, String.toList_append, String.toList_ofList, String.toList_ofList, String.toList_ofList]

/-- A host that is written with a name has one. -/
theorem hostName_ne_empty {host : List Char} (h : host ≠ []) : hostName host ≠ "" := by
  intro hempty
  have hnil : Text.lowerAfter [] (host.takeWhile (· != '%')) ++ host.dropWhile (· != '%') = [] := by
    rw [← toList_hostName, hempty]
    rfl
  obtain ⟨hlower, hzone⟩ := List.append_eq_nil_iff.mp hnil
  have hname := Text.lowerAfter_eq_nil hlower
  apply h
  rw [← List.takeWhile_append_dropWhile (p := (· != '%')) (l := host), hname, hzone]
  rfl

/-- The name of a host has blanks and control characters only where it is written with them. -/
theorem any_breaksTarget_hostName (host : List Char) :
    (hostName host).toList.any breaksTarget = host.any breaksTarget := by
  rw [toList_hostName, List.any_append, Text.any_breaksTarget_lowerAfter, ← List.any_append,
    List.takeWhile_append_dropWhile]

end Authority
end DaemonClient
