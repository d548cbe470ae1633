import DaemonClient.Proofs.JsonText
import Mathlib.Data.List.Forall2

/-! A text is read from left to right without a look at what comes later: what a reader reads at the beginning of a text
it reads there also where an item of an array ends and more follows (`readersReadOn`). So an array whose items are texts
of documents is the array of these documents (`parse_array`). -/

namespace DaemonClient.Json
open Outcome

/-! ### Readers of parts -/

/-- What may follow an item: a comma, the end of the array, or nothing. -/
def EndsItem (more : List Char) : Prop := ∀ c ∈ more.head?, c = ',' ∨ c = ']'

theorem EndsItem.delimits {more : List Char} (h : EndsItem more) : Delimits more := by
  intro c hc
  rcases h c hc with rfl | rfl <;> decide

/-- A reader that reads the same where the text goes on, and leaves all that follows. -/
def ReadsOn {α : Type} (more : List Char) (read : List Char → Option (α × List Char)) : Prop :=
  ∀ {cs : List Char} {a : α} {rest : List Char}, read cs = some (a, rest) → read (cs ++ more) = some (a, rest ++ more)

section
variable {more : List Char}

theorem skipBlanks_append {cs rest : List Char} {c : Char} (h : skipBlanks cs = c :: rest) :
    skipBlanks (cs ++ more) = c :: (rest ++ more) := by
  rw [skipBlanks] at h
  rw [skipBlanks, List.dropWhile_append, h, List.isEmpty_cons, if_neg Bool.false_ne_true, List.cons_append]

/-- An expected beginning that cannot go on with what follows. -/
theorem expect_append {es : List Char} (hmore : ∀ c ∈ more.head?, c ∉ es) (cs : List Char) :
    expect es (cs ++ more) = (expect es cs).map (· ++ more) := by
  induction es generalizing cs with
  | nil => rfl
  | cons e es ih =>
      have hrest : ∀ c ∈ more.head?, c ∉ es := fun c hc hmem => hmore c hc (List.mem_cons_of_mem _ hmem)
      cases cs with
      | nil =>
          cases more with
          | nil => rfl
          | cons c more =>
              have hne : e ≠ c := fun heq => hmore c rfl (heq ▸ List.mem_cons_self)
              rw [List.nil_append, expect, if_neg (by simpa using hne)]
              rfl
      | cons c cs =>
          rw [List.cons_append, expect, expect]
          split
          · exact ih hrest cs
          · rfl

theorem readsOn_readUnit : ReadsOn more readUnit := by
  intro cs n rest h
  unfold readUnit at h
  split at h
  · simp only [Option.bind_eq_bind, Option.bind_eq_some_iff, pure, Option.some.injEq, Prod.mk.injEq] at h
    obtain ⟨w, hw, x, hx, y, hy, z, hz, rfl, rfl⟩ := h
    simp only [List.cons_append, readUnit, hw, hx, hy, hz, Option.bind_eq_bind, Option.bind_some, Option.pure_def]
  · cases h

theorem readsOn_readLowEscape : ReadsOn more readLowEscape := by
  intro cs n rest h
  unfold readLowEscape at h
  split at h
  · obtain ⟨hunit, hlow⟩ := Option.filter_eq_some_iff.mp h
    simp only [List.cons_append, readLowEscape, readsOn_readUnit hunit]
    exact Option.filter_eq_some_iff.mpr ⟨rfl, hlow⟩
  · cases h

section
variable {standIn? : Option (Nat → Char)}

/-- A string that begins with an escape goes on with the escape. -/
theorem exists_readEscape {fuel : Nat} {cs : List Char} {r : List Char × List Char}
    (hstring : readChars standIn? (fuel + 1) ('\\' :: cs) = some r) : ∃ d, readEscape standIn? cs = some d := by
  rw [readChars, if_neg (by decide), if_pos (by decide)] at hstring
  obtain ⟨d, hescape, -⟩ := Option.bind_eq_some_iff.mp hstring
  exact ⟨d, hescape⟩

/-- A string that goes on after a surrogate shows whether the other half comes next, so what follows the string has no
part in it. -/
theorem readLowEscape_append {fuel : Nat} {cs : List Char} {r : List Char × List Char}
    (hstring : readChars standIn? fuel cs = some r) (h : readLowEscape cs = none) :
    readLowEscape (cs ++ more) = none := by
  obtain ⟨fuel, rfl⟩ : ∃ f, fuel = f + 1 := Nat.exists_eq_succ_of_ne_zero fun hzero => by subst hzero; cases hstring
  cases cs with
  | nil => cases hstring
  | cons c cs =>
      by_cases hslash : c = '\\'
      · subst hslash
        obtain ⟨d, hescape⟩ := exists_readEscape hstring
        cases cs with
        | nil => cases hescape
        | cons c cs =>
            by_cases hunit : c = 'u'
            · subst hunit
              obtain ⟨⟨unit, rest⟩, hread, -⟩ := Option.bind_eq_some_iff.mp hescape
              rw [readLowEscape, hread] at h
              simp only [List.cons_append, readLowEscape, readsOn_readUnit hread]
              rw [Option.filter_eq_none_iff] at h ⊢
              intro r' hr'
              obtain rfl := Option.some.inj hr'
              exact h (unit, rest) rfl
            · rw [List.cons_append, List.cons_append, readLowEscape]
              exact fun _ heq => hunit (List.cons.inj (List.cons.inj heq).2).1
      · rw [List.cons_append, readLowEscape]
        exact fun _ heq => hslash (List.cons.inj heq).1

theorem readUnitEscape_append {fuel : Nat} {cs rest : List Char} {c : Char} {r : List Char × List Char}
    (h : readUnitEscape standIn? cs = some (c, rest)) (hstring : readChars standIn? fuel rest = some r) :
    readUnitEscape standIn? (cs ++ more) = some (c, rest ++ more) := by
  simp only [readUnitEscape, Option.bind_eq_bind, Option.bind_eq_some_iff, Prod.exists] at h
  obtain ⟨unit, after, hunit, h⟩ := h
  simp only [readUnitEscape, readsOn_readUnit hunit, Option.bind_eq_bind, Option.bind_some]
  split at h
  · rename_i hsingle
    obtain ⟨rfl, rfl⟩ := Prod.mk.inj (Option.some.inj h)
    rw [if_pos hsingle]
    rfl
  rename_i hsurrogate
  rw [if_neg hsurrogate]
  split at h
  · rename_i hlow
    obtain ⟨rfl, rfl⟩ := Prod.mk.inj (Option.some.inj h)
    split at hlow
    · rename_i hhigh
      simp only [if_pos hhigh, readsOn_readLowEscape hlow]
      rfl
    · cases hlow
  · rename_i hlone
    obtain ⟨standIn, rfl, hpair⟩ := Option.map_eq_some_iff.mp h
    obtain ⟨rfl, rfl⟩ := Prod.mk.inj hpair
    have hlone : (if unit < 0xDC00 then readLowEscape (after ++ more) else none) = none := by
      split at hlone
      · rename_i hhigh
        rw [if_pos hhigh, readLowEscape_append hstring hlone]
      · rename_i hhigh
        rw [if_neg hhigh]
    simp only [hlone, Option.map_some]

theorem readEscape_append {fuel : Nat} {cs rest : List Char} {c : Char} {r : List Char × List Char}
    (h : readEscape standIn? cs = some (c, rest)) (hstring : readChars standIn? fuel rest = some r) :
    readEscape standIn? (cs ++ more) = some (c, rest ++ more) := by
  unfold readEscape at h
  split at h
  case h_9 => exact readUnitEscape_append h hstring
  case h_10 => cases h
  all_goals
    obtain ⟨rfl, rfl⟩ := Prod.mk.inj (Option.some.inj h)
    rfl

theorem readChars_append {fuel fuel' : Nat} (hfuel : fuel ≤ fuel') {cs ds rest : List Char}
    (h : readChars standIn? fuel cs = some (ds, rest)) :
    readChars standIn? fuel' (cs ++ more) = some (ds, rest ++ more) := by
  induction fuel generalizing fuel' cs ds with
  | zero => cases h
  | succ fuel ih =>
      obtain ⟨fuel', rfl⟩ : ∃ f, fuel' = f + 1 := ⟨fuel' - 1, by omega⟩
      cases cs with
      | nil => cases h
      | cons c cs =>
          rw [readChars] at h
          rw [List.cons_append, readChars]
          split at h
          · rename_i hquote
            obtain ⟨rfl, rfl⟩ := Prod.mk.inj (Option.some.inj h)
            rw [if_pos hquote]
          rename_i hquote
          rw [if_neg hquote]
          split at h
          · rename_i hslash
            simp only [Option.bind_eq_bind, Option.bind_eq_some_iff, Prod.exists, pure, Option.some.injEq,
              Prod.mk.injEq] at h
            obtain ⟨d, after, hescape, ds', rest', hchars, rfl, rfl⟩ := h
            simp only [if_pos hslash, readEscape_append hescape hchars, ih (Nat.le_of_succ_le_succ hfuel) hchars,
              Option.bind_eq_bind, Option.bind_some, Option.pure_def]
          rename_i hslash
          rw [if_neg hslash]
          split at h
          · cases h
          · rename_i hcontrol
            simp only [Option.bind_eq_bind, Option.bind_eq_some_iff, Prod.exists, pure, Option.some.injEq,
              Prod.mk.injEq] at h
            obtain ⟨ds', rest', hchars, rfl, rfl⟩ := h
            simp only [if_neg hcontrol, ih (Nat.le_of_succ_le_succ hfuel) hchars, Option.bind_eq_bind,
              Option.bind_some, Option.pure_def]

theorem readsOn_readText : ReadsOn more (readText standIn?) := by
  intro cs s rest h
  rw [readText, Option.map_eq_some_iff] at h
  obtain ⟨⟨ds, after⟩, hchars, h⟩ := h
  obtain ⟨rfl, rfl⟩ := Prod.mk.inj h
  have hfuel : cs.length + 1 ≤ (cs ++ more).length + 1 := by rw [List.length_append]; omega
  rw [readText, readChars_append hfuel hchars]
  rfl

end

/-! ### Numbers and words -/

theorem readsOn_readDigits (hmore : Delimits more) : ReadsOn more readDigits := by
  intro cs ds rest h
  obtain ⟨htake, hdrop⟩ := span_append cs fun c hc => (hmore c hc).1
  simp only [readDigits] at h ⊢
  rw [htake, hdrop]
  split at h
  · cases h
  · rename_i hempty
    obtain ⟨rfl, rfl⟩ := Prod.mk.inj (Option.some.inj h)
    rw [if_neg hempty]

theorem readsOn_readWhole (hmore : Delimits more) : ReadsOn more readWhole := by
  intro cs ds rest h
  unfold readWhole at h
  split at h
  · obtain ⟨rfl, rfl⟩ := Prod.mk.inj (Option.some.inj h)
    rfl
  · rename_i c cs hzero
    obtain ⟨htake, hdrop⟩ := span_append cs fun c hc => (hmore c hc).1
    split at h
    · rename_i hdigit
      obtain ⟨rfl, rfl⟩ := Prod.mk.inj (Option.some.inj h)
      rw [List.cons_append, readWhole, if_pos hdigit, htake, hdrop]
      exact hzero
    · cases h
  · cases h

theorem readsOn_readFraction (hmore : Delimits more) : ReadsOn more readFraction := by
  intro cs ds rest h
  unfold readFraction at h
  split at h
  · rw [Option.map_eq_some_iff] at h
    obtain ⟨⟨_, _⟩, hdigits, h⟩ := h
    obtain ⟨rfl, rfl⟩ := Prod.mk.inj h
    rw [List.cons_append, readFraction, readsOn_readDigits hmore hdigits]
    rfl
  · rename_i hpoint
    obtain ⟨rfl, rfl⟩ := Prod.mk.inj (Option.some.inj h)
    cases cs with
    | nil => exact readFraction_none hmore
    | cons c cs =>
        rw [List.cons_append, readFraction]
        intro rest heq
        exact hpoint cs (by rw [(List.cons.inj heq).1])

theorem splitSign_cons_append (c : Char) (cs : List Char) :
    splitSign (c :: cs ++ more) = ((splitSign (c :: cs)).1, (splitSign (c :: cs)).2 ++ more) := by
  by_cases hminus : c = '-'
  · rw [hminus]
    rfl
  by_cases hplus : c = '+'
  · rw [hplus]
    rfl
  have hplain (cs : List Char) : splitSign (c :: cs) = (false, c :: cs) := by
    unfold splitSign
    split
    · rename_i heq; exact absurd (List.cons.inj heq).1 hminus
    · rename_i heq; exact absurd (List.cons.inj heq).1 hplus
    · rfl
  rw [List.cons_append, hplain, hplain]
  rfl

theorem readsOn_readExponent (hmore : Delimits more) : ReadsOn more readExponent := by
  intro cs n rest h
  cases cs with
  | nil =>
      obtain ⟨rfl, rfl⟩ := Prod.mk.inj (Option.some.inj h)
      exact readExponent_none hmore
  | cons c cs =>
      rw [readExponent] at h
      rw [List.cons_append, readExponent]
      split at h
      · rename_i hmark
        rw [if_pos hmark]
        rw [Option.map_eq_some_iff] at h
        obtain ⟨⟨ds, after⟩, hdigits, h⟩ := h
        obtain ⟨rfl, rfl⟩ := Prod.mk.inj h
        cases cs with
        | nil => cases hdigits
        | cons d cs =>
            rw [splitSign_cons_append]
            simp only [readsOn_readDigits hmore hdigits, Option.map_some]
      · rename_i hmark
        obtain ⟨rfl, rfl⟩ := Prod.mk.inj (Option.some.inj h)
        rw [if_neg hmark]
        rfl

theorem readsOn_readMagnitude (hmore : Delimits more) (longFloats negative : Bool) :
    ReadsOn more (readMagnitude longFloats negative) := by
  intro cs j rest h
  simp only [readMagnitude, Option.bind_eq_bind, Option.bind_eq_some_iff, Prod.exists] at h
  obtain ⟨whole, after, hwhole, fraction, after', hfraction, exponent, after'', hexponent, h⟩ := h
  simp only [readMagnitude, readsOn_readWhole hmore hwhole, readsOn_readFraction hmore hfraction,
    readsOn_readExponent hmore hexponent, Option.bind_eq_bind, Option.bind_some]
  split at h
  · cases h
  rename_i hlong
  rw [if_neg hlong]
  split at h
  · rename_i hint
    obtain ⟨rfl, rfl⟩ := Prod.mk.inj (Option.some.inj h)
    rw [if_pos hint]
    rfl
  · rename_i hfloat
    obtain ⟨rfl, rfl⟩ := Prod.mk.inj (Option.some.inj h)
    rw [if_neg hfloat]
    rfl

/-- No word goes on after the end of an item. -/
theorem not_mem_word (hmore : EndsItem more) {w : List Char × Json} (hw : w ∈ words) :
    ∀ c ∈ more.head?, c ∉ w.1 := by
  have hwords : ∀ w ∈ words.map (·.1), ',' ∉ w ∧ ']' ∉ w := by decide
  obtain ⟨hcomma, hbracket⟩ := hwords _ (List.mem_map_of_mem hw)
  intro c hc
  rcases hmore c hc with rfl | rfl
  · exact hcomma
  · exact hbracket

theorem readsOn_readScalar (hmore : EndsItem more) (longFloats : Bool) : ReadsOn more (readScalar longFloats) := by
  intro cs j rest h
  have hwords : (words.findSome? fun w => (expect w.1 (cs ++ more)).map fun rest => (w.2, rest)) =
      (words.findSome? fun w => (expect w.1 cs).map fun rest => (w.2, rest)).map fun r => (r.1, r.2 ++ more) := by
    rw [List.map_findSome?, ← List.head?_filterMap, ← List.head?_filterMap]
    refine congrArg List.head? (List.filterMap_congr fun w hw => ?_)
    rw [expect_append (not_mem_word hmore hw), Function.comp_apply, Option.map_map, Option.map_map]
    rfl
  unfold readScalar at h ⊢
  rw [hwords]
  cases hword : words.findSome? fun w => (expect w.1 cs).map fun rest => (w.2, rest) with
  | some r =>
      rw [hword] at h
      obtain rfl := Option.some.inj h
      rfl
  | none =>
      rw [hword] at h
      simp only [Option.map_none] at h ⊢
      split at h
      · exact readsOn_readMagnitude hmore.delimits longFloats true h
      · rename_i hminus
        cases cs with
        | nil => cases h
        | cons c cs =>
            have hne : c ≠ '-' := fun heq => hminus cs (by rw [heq])
            rw [List.cons_append]
            split
            · rename_i heq
              exact absurd (List.cons.inj heq).1 hne
            · exact readsOn_readMagnitude hmore.delimits longFloats false h

end

/-! ### Documents, items and members -/

/-- A reader of documents, or of parts of one, that reads the same where the text goes on, with as much fuel or more and
any depth that what it reads fits. -/
def ReadsDeepOn {α : Type} (more : List Char) (depthOf : α → Nat)
    (read : Nat → Nat → List Char → Except ReadFault (α × List Char)) (fuel : Nat) : Prop :=
  ∀ {depth : Nat} {cs : List Char} {a : α} {rest : List Char}, read fuel depth cs = .ok (a, rest) →
    ∀ {fuel' depth' : Nat}, fuel ≤ fuel' → depthOf a ≤ depth' → read fuel' depth' (cs ++ more) = .ok (a, rest ++ more)

/-- The readers of documents, of items and of members read on with some fuel. -/
structure ReadersReadOn (tolerance : Tolerance) (more : List Char) (fuel : Nat) : Prop where
  document : ReadsDeepOn more nesting (readDocument tolerance) fuel
  items : ReadsDeepOn more nestingItems (readItems tolerance) fuel
  members : ReadsDeepOn more nestingMembers (readMembers tolerance) fuel

theorem orMalformed_eq_ok {α : Type} {r : Option α} {a : α} : orMalformed r = .ok a ↔ r = some a := by
  cases r <;> simp [orMalformed]

/-- What is read begins with a character. -/
theorem skipBlanks_of_readDocument {tolerance : Tolerance} {fuel depth : Nat} {cs rest : List Char} {j : Json}
    (h : readDocument tolerance fuel depth cs = .ok (j, rest)) : ∃ c after, skipBlanks cs = c :: after := by
  cases fuel with
  | zero => rw [readDocument] at h; cases h
  | succ fuel =>
      cases hblanks : skipBlanks cs with
      | nil => rw [readDocument, hblanks] at h; cases h
      | cons c after => exact ⟨c, after, rfl⟩

section
variable {tolerance : Tolerance} {fuel depth : Nat} {cs rest : List Char}

/-- Items that are read are a document, and nothing more or further items. -/
theorem readItems_cases {js : List Json} (h : readItems tolerance (fuel + 1) depth cs = .ok (js, rest)) :
    ∃ j after, readDocument tolerance fuel depth cs = .ok (j, after) ∧
      (skipBlanks after = ']' :: rest ∧ js = [j] ∨
        ∃ cs' js', skipBlanks after = ',' :: cs' ∧ readItems tolerance fuel depth cs' = .ok (js', rest) ∧
          js = j :: js') := by
  rw [readItems] at h
  obtain ⟨⟨j, after⟩, hj, h⟩ := bind_eq_ok.mp h
  refine ⟨j, after, hj, ?_⟩
  simp only at h
  split at h
  · rename_i hclose
    obtain ⟨rfl, rfl⟩ := Prod.mk.inj (Except.ok.inj h)
    exact .inl ⟨hclose, rfl⟩
  · rename_i cs' hcomma
    obtain ⟨⟨js', after'⟩, hitems, h⟩ := bind_eq_ok.mp h
    obtain ⟨rfl, rfl⟩ := Prod.mk.inj (Except.ok.inj h)
    exact .inr ⟨cs', js', hcomma, hitems, rfl⟩
  · cases h

/-- Members that are read are a name and a document, and nothing more or further members. -/
theorem readMembers_cases {ms : List (String × Json)}
    (h : readMembers tolerance (fuel + 1) depth cs = .ok (ms, rest)) :
    ∃ k value j after, Names tolerance.standIn? cs k value ∧ readDocument tolerance fuel depth value = .ok (j, after) ∧
      (skipBlanks after = '\x7d' :: rest ∧ ms = [(k, j)] ∨
        ∃ cs' ms', skipBlanks after = ',' :: cs' ∧ readMembers tolerance fuel depth cs' = .ok (ms', rest) ∧
          ms = (k, j) :: ms') := by
  rw [readMembers] at h
  split at h
  · rename_i name hopen
    obtain ⟨⟨k, after'⟩, htext, h⟩ := bind_eq_ok.mp h
    simp only at h
    split at h
    · rename_i value hcolon
      obtain ⟨⟨j, after⟩, hj, h⟩ := bind_eq_ok.mp h
      refine ⟨k, value, j, after, ⟨name, after', hopen, orMalformed_eq_ok.mp htext, hcolon⟩, hj, ?_⟩
      simp only at h
      split at h
      · rename_i hclose
        obtain ⟨rfl, rfl⟩ := Prod.mk.inj (Except.ok.inj h)
        exact .inl ⟨hclose, rfl⟩
      · rename_i cs' hcomma
        obtain ⟨⟨ms', after''⟩, hmembers, h⟩ := bind_eq_ok.mp h
        obtain ⟨rfl, rfl⟩ := Prod.mk.inj (Except.ok.inj h)
        exact .inr ⟨cs', ms', hcomma, hmembers, rfl⟩
      · cases h
    · cases h
  · cases h

/-- No item begins with the end of an array. -/
theorem not_close_of_readItems {js : List Json} (h : readItems tolerance fuel depth cs = .ok (js, rest))
    (after : List Char) : skipBlanks cs ≠ ']' :: after := by
  intro hclose
  cases fuel with
  | zero => rw [readItems] at h; cases h
  | succ fuel =>
      obtain ⟨j, after', hj, -⟩ := readItems_cases h
      cases fuel with
      | zero => rw [readDocument] at hj; cases hj
      | succ fuel => rw [readDocument, hclose] at hj; cases hj

/-- No member begins with the end of an object. -/
theorem not_close_of_readMembers {ms : List (String × Json)}
    (h : readMembers tolerance fuel depth cs = .ok (ms, rest)) (after : List Char) :
    skipBlanks cs ≠ '\x7d' :: after := by
  cases fuel with
  | zero => rw [readMembers] at h; cases h
  | succ fuel =>
      obtain ⟨k, value, j, after', ⟨name, after'', hopen, -⟩, -⟩ := readMembers_cases h
      rw [hopen]
      exact fun heq => absurd (List.cons.inj heq).1 (by decide)

end

theorem Names.append {standIn? : Option (Nat → Char)} {more cs value : List Char} {k : String}
    (h : Names standIn? cs k value) : Names standIn? (cs ++ more) k (value ++ more) := by
  obtain ⟨name, after, hopen, htext, hcolon⟩ := h
  exact ⟨_, _, skipBlanks_append hopen, readsOn_readText htext, skipBlanks_append hcolon⟩

namespace ReadersReadOn

variable {tolerance : Tolerance} {more : List Char} {fuel : Nat}

theorem document_succ (hmore : EndsItem more) (h : ReadersReadOn tolerance more fuel) :
    ReadsDeepOn more nesting (readDocument tolerance) (fuel + 1) := by
  intro depth cs j rest hread fuel' depth' hfuel hdepth
  obtain ⟨fuel', rfl⟩ : ∃ f, fuel' = f + 1 := ⟨fuel' - 1, by omega⟩
  have hfuel : fuel ≤ fuel' := Nat.le_of_succ_le_succ hfuel
  obtain ⟨c, after, hcs⟩ := skipBlanks_of_readDocument hread
  rw [readDocument, hcs] at hread
  split at hread
  case h_1 heq =>
    obtain ⟨rfl, rfl⟩ := List.cons.inj heq
    obtain ⟨⟨s, after'⟩, htext, hpair⟩ := Option.map_eq_some_iff.mp (orMalformed_eq_ok.mp hread)
    obtain ⟨rfl, rfl⟩ := Prod.mk.inj hpair
    simp only [readDocument, skipBlanks_append hcs, readsOn_readText htext, Option.map_some, orMalformed_eq_ok]
  case h_2 heq =>
    obtain ⟨rfl, rfl⟩ := List.cons.inj heq
    split at hread
    · cases hread
    · rename_i hclose
      obtain ⟨rfl, rfl⟩ := Prod.mk.inj (Except.ok.inj hread)
      obtain ⟨depth', rfl⟩ : ∃ d, depth' = d + 1 := ⟨depth' - 1, by rw [nesting] at hdepth; omega⟩
      exact readDocument_emptyArray (skipBlanks_append hcs) (skipBlanks_append hclose)
    · obtain ⟨⟨js, after'⟩, hitems, hpair⟩ := map_eq_ok.mp hread
      obtain ⟨rfl, rfl⟩ := Prod.mk.inj hpair
      obtain ⟨depth', rfl⟩ : ∃ d, depth' = d + 1 := ⟨depth' - 1, by rw [nesting] at hdepth; omega⟩
      have hread := h.items hitems hfuel (Nat.le_of_succ_le_succ hdepth)
      rw [readDocument_array (skipBlanks_append hcs) (not_close_of_readItems hread), hread]
      rfl
  case h_3 heq =>
    obtain ⟨rfl, rfl⟩ := List.cons.inj heq
    split at hread
    · cases hread
    · rename_i hclose
      obtain ⟨rfl, rfl⟩ := Prod.mk.inj (Except.ok.inj hread)
      obtain ⟨depth', rfl⟩ : ∃ d, depth' = d + 1 := ⟨depth' - 1, by rw [nesting] at hdepth; omega⟩
      exact readDocument_emptyObject (skipBlanks_append hcs) (skipBlanks_append hclose)
    · obtain ⟨⟨ms, after'⟩, hmembers, hpair⟩ := map_eq_ok.mp hread
      obtain ⟨rfl, rfl⟩ := Prod.mk.inj hpair
      obtain ⟨depth', rfl⟩ : ∃ d, depth' = d + 1 := ⟨depth' - 1, by rw [nesting] at hdepth; omega⟩
      have hread := h.members hmembers hfuel (Nat.le_of_succ_le_succ hdepth)
      rw [readDocument_object (skipBlanks_append hcs) (not_close_of_readMembers hread), hread]
      rfl
  case h_4 hquote hbracket hbrace =>
    simp only [readDocument, skipBlanks_append hcs]
    have hscalar := readsOn_readScalar hmore tolerance.longFloats (orMalformed_eq_ok.mp hread)
    rw [List.cons_append] at hscalar
    split
    · rename_i heq; exact absurd (by rw [(List.cons.inj heq).1]) (hquote after)
    · rename_i heq; exact absurd (by rw [(List.cons.inj heq).1]) (hbracket after)
    · rename_i heq; exact absurd (by rw [(List.cons.inj heq).1]) (hbrace after)
    · exact orMalformed_eq_ok.mpr hscalar

theorem items_succ (h : ReadersReadOn tolerance more fuel) :
    ReadsDeepOn more nestingItems (readItems tolerance) (fuel + 1) := by
  intro depth cs js rest hread fuel' depth' hfuel hdepth
  obtain ⟨fuel', rfl⟩ : ∃ f, fuel' = f + 1 := ⟨fuel' - 1, by omega⟩
  have hfuel : fuel ≤ fuel' := Nat.le_of_succ_le_succ hfuel
  obtain ⟨j, after, hj, ⟨hclose, rfl⟩ | ⟨cs', js', hcomma, hitems, rfl⟩⟩ := readItems_cases hread
  · rw [nestingItems, Nat.max_le] at hdepth
    exact readItems_last (h.document hj hfuel hdepth.1) (skipBlanks_append hclose)
  · rw [nestingItems, Nat.max_le] at hdepth
    exact readItems_more (h.document hj hfuel hdepth.1) (skipBlanks_append hcomma) (h.items hitems hfuel hdepth.2)

theorem members_succ (h : ReadersReadOn tolerance more fuel) :
    ReadsDeepOn more nestingMembers (readMembers tolerance) (fuel + 1) := by
  intro depth cs ms rest hread fuel' depth' hfuel hdepth
  obtain ⟨fuel', rfl⟩ : ∃ f, fuel' = f + 1 := ⟨fuel' - 1, by omega⟩
  have hfuel : fuel ≤ fuel' := Nat.le_of_succ_le_succ hfuel
  obtain ⟨k, value, j, after, hname, hj, ⟨hclose, rfl⟩ | ⟨cs', ms', hcomma, hmembers, rfl⟩⟩ := readMembers_cases hread
  · rw [nestingMembers, Nat.max_le] at hdepth
    exact readMembers_last hname.append (h.document hj hfuel hdepth.1) (skipBlanks_append hclose)
  · rw [nestingMembers, Nat.max_le] at hdepth
    exact readMembers_more hname.append (h.document hj hfuel hdepth.1) (skipBlanks_append hcomma)
      (h.members hmembers hfuel hdepth.2)

end ReadersReadOn

/-- **Readers do not look past what they read**, where an item ends. -/
theorem readersReadOn (tolerance : Tolerance) {more : List Char} (hmore : EndsItem more) (fuel : Nat) :
    ReadersReadOn tolerance more fuel := by
  induction fuel with
  | zero =>
      constructor
      · intro depth cs j rest h
        rw [readDocument] at h
        cases h
      · intro depth cs js rest h
        rw [readItems] at h
        cases h
      · intro depth cs ms rest h
        rw [readMembers] at h
        cases h
  | succ fuel ih => exact ⟨ih.document_succ hmore, ih.items_succ, ih.members_succ⟩

/-! ### Depth -/

/-- What the readers of documents, of items and of members read with some fuel nests no deeper than they follow. -/
structure ReadersFollow (tolerance : Tolerance) (fuel : Nat) : Prop where
  document : ∀ {depth cs j rest}, readDocument tolerance fuel depth cs = .ok (j, rest) → nesting j ≤ depth
  items : ∀ {depth cs js rest}, readItems tolerance fuel depth cs = .ok (js, rest) → nestingItems js ≤ depth
  members : ∀ {depth cs ms rest}, readMembers tolerance fuel depth cs = .ok (ms, rest) → nestingMembers ms ≤ depth

theorem nesting_readMagnitude {longFloats negative : Bool} {cs rest : List Char} {j : Json}
    (h : readMagnitude longFloats negative cs = some (j, rest)) : nesting j = 0 := by
  simp only [readMagnitude, Option.bind_eq_bind, Option.bind_eq_some_iff, Prod.exists] at h
  obtain ⟨whole, _, -, fraction, _, -, exponent, _, -, h⟩ := h
  split at h
  · cases h
  split at h
  all_goals
    obtain ⟨rfl, -⟩ := Prod.mk.inj (Option.some.inj h)
    rfl

theorem nesting_readScalar {longFloats : Bool} {cs rest : List Char} {j : Json}
    (h : readScalar longFloats cs = some (j, rest)) : nesting j = 0 := by
  unfold readScalar at h
  split at h
  · rename_i r hword
    obtain rfl := Option.some.inj h
    obtain ⟨w, hw, hrest⟩ := List.exists_of_findSome?_eq_some hword
    obtain ⟨_, -, hpair⟩ := Option.map_eq_some_iff.mp hrest
    obtain ⟨rfl, -⟩ := Prod.mk.inj hpair
    have hwords : ∀ w ∈ words, nesting w.2 = 0 := by decide
    exact hwords w hw
  · split at h <;> exact nesting_readMagnitude h

theorem ReadersFollow.succ {tolerance : Tolerance} {fuel : Nat} (h : ReadersFollow tolerance fuel) :
    ReadersFollow tolerance (fuel + 1) := by
  refine ⟨fun {depth cs j rest} hread => ?_, fun {depth cs js rest} hread => ?_, fun {depth cs ms rest} hread => ?_⟩
  · rw [readDocument] at hread
    split at hread
    · obtain ⟨r, -, hpair⟩ := Option.map_eq_some_iff.mp (orMalformed_eq_ok.mp hread)
      obtain ⟨rfl, -⟩ := Prod.mk.inj hpair
      exact Nat.zero_le _
    · split at hread
      · cases hread
      · obtain ⟨rfl, -⟩ := Prod.mk.inj (Except.ok.inj hread)
        exact Nat.succ_le_succ (Nat.zero_le _)
      · obtain ⟨⟨js, after⟩, hitems, hpair⟩ := map_eq_ok.mp hread
        obtain ⟨rfl, -⟩ := Prod.mk.inj hpair
        exact Nat.succ_le_succ (h.items hitems)
    · split at hread
      · cases hread
      · obtain ⟨rfl, -⟩ := Prod.mk.inj (Except.ok.inj hread)
        exact Nat.succ_le_succ (Nat.zero_le _)
      · obtain ⟨⟨ms, after⟩, hmembers, hpair⟩ := map_eq_ok.mp hread
        obtain ⟨rfl, -⟩ := Prod.mk.inj hpair
        exact Nat.succ_le_succ (h.members hmembers)
    · rw [nesting_readScalar (orMalformed_eq_ok.mp hread)]
      exact Nat.zero_le _
  · obtain ⟨j, after, hj, ⟨-, rfl⟩ | ⟨cs', js', -, hitems, rfl⟩⟩ := readItems_cases hread
    · exact Nat.max_le.mpr ⟨h.document hj, Nat.zero_le _⟩
    · exact Nat.max_le.mpr ⟨h.document hj, h.items hitems⟩
  · obtain ⟨k, value, j, after, -, hj, ⟨-, rfl⟩ | ⟨cs', ms', -, hmembers, rfl⟩⟩ := readMembers_cases hread
    · exact Nat.max_le.mpr ⟨h.document hj, Nat.zero_le _⟩
    · exact Nat.max_le.mpr ⟨h.document hj, h.members hmembers⟩

theorem parse_eq_ok {limits : Limits} {cs : List Char} {j : Json} :
    parse limits cs = .ok j ↔ ∃ rest,
      readDocument limits.tolerance (2 * cs.length + 1) limits.depth cs = .ok (j, rest) ∧ skipBlanks rest = [] := by
  rw [parse, bind_eq_ok]
  constructor
  · rintro ⟨⟨j', rest⟩, hread, h⟩
    simp only at h
    split at h
    · rename_i hempty
      obtain rfl := Except.ok.inj h
      exact ⟨rest, hread, List.isEmpty_iff.mp hempty⟩
    · cases h
  · rintro ⟨rest, hread, hblank⟩
    refine ⟨(j, rest), hread, ?_⟩
    simp only [hblank]
    rfl

section
variable {limits : Limits} {depth fuel : Nat}

/-- A text of a document is read as an item, up to the blanks at its end. -/
theorem readDocument_of_parse {cs more : List Char} {c : Char} {j : Json} (h : parse limits cs = .ok j)
    (hc : c = ',' ∨ c = ']') (hfuel : 2 * cs.length < fuel) (hdepth : j.nesting ≤ depth) :
    ∃ after, readDocument limits.tolerance fuel depth (cs ++ c :: more) = .ok (j, after) ∧
      skipBlanks after = c :: more := by
  obtain ⟨rest, hread, hblank⟩ := parse_eq_ok.mp h
  have hmore : EndsItem (c :: more) := fun d hd => Option.some.inj hd ▸ hc
  refine ⟨_, (readersReadOn _ hmore _).document hread hfuel hdepth, ?_⟩
  rw [skipBlanks] at hblank
  rw [skipBlanks, List.dropWhile_append, hblank]
  rcases hc with rfl | rfl <;> rfl

/-- Texts with commas between them are read as items, up to a closing bracket. -/
theorem readItems_joined {texts : List (List Char)} {js : List Json}
    (h : List.Forall₂ (fun cs j => parse limits cs = .ok j ∧ j.nesting ≤ depth) texts js) (hne : texts ≠ [])
    (hfuel : 2 * ([','].intercalate texts).length + 1 < fuel) :
    readItems limits.tolerance fuel depth ([','].intercalate texts ++ [']']) = .ok (js, []) := by
  induction h generalizing fuel with
  | nil => exact absurd rfl hne
  | @cons cs j texts js hj htexts ih =>
      obtain ⟨fuel, rfl⟩ : ∃ f, fuel = f + 1 := ⟨fuel - 1, by omega⟩
      cases htexts with
      | nil =>
          rw [List.intercalate_singleton] at hfuel ⊢
          obtain ⟨after, hread, hclose⟩ := readDocument_of_parse hj.1 (.inr rfl) (show 2 * cs.length < fuel by omega) hj.2
          exact readItems_last hread hclose
      | @cons cs' j' texts js hj' htexts =>
          rw [List.intercalate_cons_cons] at hfuel ⊢
          simp only [List.length_append, List.length_singleton] at hfuel
          simp only [List.append_assoc, List.singleton_append]
          obtain ⟨after, hread, hcomma⟩ := readDocument_of_parse hj.1 (.inl rfl) (show 2 * cs.length < fuel by omega) hj.2
          exact readItems_more hread hcomma (ih (List.cons_ne_nil _ _) (by omega))

/-- **Texts of documents in brackets with commas between them are the text of the array of the documents.** -/
theorem parse_array (hlimit : 0 < limits.depth) {texts : List (List Char)} {js : List Json}
    (h : List.Forall₂ (fun cs j => parse limits cs = .ok j ∧ j.nesting < limits.depth) texts js) :
    parse limits ('[' :: ([','].intercalate texts ++ [']'])) = .ok (array js) := by
  obtain ⟨depth, hdepth⟩ : ∃ d, limits.depth = d + 1 := ⟨limits.depth - 1, by omega⟩
  refine parse_eq_ok.mpr ⟨[], ?_, rfl⟩
  rw [hdepth]
  have hitems : List.Forall₂ (fun cs j => parse limits cs = .ok j ∧ j.nesting ≤ depth) texts js :=
    h.imp fun _ _ hj => ⟨hj.1, by omega⟩
  cases texts with
  | nil =>
      cases h
      exact readDocument_emptyArray (skipBlanks_cons rfl _) (skipBlanks_cons rfl _)
  | cons cs texts =>
      have hread : readItems limits.tolerance (2 * ('[' :: ([','].intercalate (cs :: texts) ++ [']'])).length) depth
          ([','].intercalate (cs :: texts) ++ [']']) = .ok (js, []) := by
        refine readItems_joined hitems (List.cons_ne_nil _ _) ?_
        simp only [List.length_cons, List.length_append]
        omega
      rw [readDocument_array (skipBlanks_cons rfl _) (not_close_of_readItems hread), hread]
      rfl

end

end DaemonClient.Json
