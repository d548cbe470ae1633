import DaemonClient.Proofs.JsonText

/-! When a reader gives up on depth. Each array or object that it opens takes an opening sign of the text, so it gives
up only on texts with more of them than the depth (`depth_lt_openings`), and it does so where that many arrays open
with nothing between them, whatever follows (`parse_brackets`). -/

namespace DaemonClient.Json
open Outcome

/-- A sign that opens an array or an object. -/
def isOpening (c : Char) : Bool := c == '[' || c == '\x7b'

/-- How many opening signs a text has, those inside its strings included. -/
def openings (cs : List Char) : Nat := cs.countP isOpening

theorem openings_le_of_suffix {cs rest : List Char} (h : rest <:+ cs) : openings rest ≤ openings cs :=
  h.sublist.countP_le

/-! ### What a reader leaves is an end of the text -/

theorem skipBlanks_suffix (cs : List Char) : skipBlanks cs <:+ cs := List.dropWhile_suffix _

theorem suffix_of_skipBlanks {cs rest : List Char} {c : Char} (h : skipBlanks cs = c :: rest) : rest <:+ cs :=
  (List.suffix_cons c rest).trans (h ▸ skipBlanks_suffix cs)

theorem expect_suffix {es cs rest : List Char} (h : expect es cs = some rest) : rest <:+ cs := by
  induction es generalizing cs with
  | nil =>
      obtain rfl := Option.some.inj h
      exact List.suffix_rfl
  | cons e es ih =>
      cases cs with
      | nil => cases h
      | cons c cs =>
          rw [expect] at h
          split at h
          · exact (ih h).trans (List.suffix_cons c cs)
          · cases h

theorem readUnit_suffix {cs rest : List Char} {n : Nat} (h : readUnit cs = some (n, rest)) : rest <:+ cs := by
  unfold readUnit at h
  split at h
  · simp only [Option.bind_eq_bind, Option.bind_eq_some_iff, pure, Option.some.injEq, Prod.mk.injEq] at h
    obtain ⟨_, -, _, -, _, -, _, -, -, rfl⟩ := h
    exact ⟨[_, _, _, _], rfl⟩
  · cases h

theorem readLowEscape_suffix {cs rest : List Char} {n : Nat} (h : readLowEscape cs = some (n, rest)) : rest <:+ cs := by
  unfold readLowEscape at h
  split at h
  · exact (readUnit_suffix (Option.filter_eq_some_iff.mp h).1).trans (List.suffix_append ['\\', 'u'] _)
  · cases h

section
variable {standIn? : Option (Nat → Char)}

theorem readUnitEscape_suffix {cs rest : List Char} {c : Char} (h : readUnitEscape standIn? cs = some (c, rest)) :
    rest <:+ cs := by
  simp only [readUnitEscape, Option.bind_eq_bind, Option.bind_eq_some_iff, Prod.exists] at h
  obtain ⟨unit, after, hunit, h⟩ := h
  have hafter := readUnit_suffix hunit
  split at h
  · obtain ⟨-, rfl⟩ := Prod.mk.inj (Option.some.inj h)
    exact hafter
  split at h
  · rename_i hlow
    obtain ⟨-, rfl⟩ := Prod.mk.inj (Option.some.inj h)
    split at hlow
    · exact (readLowEscape_suffix hlow).trans hafter
    · cases hlow
  · obtain ⟨standIn, -, hpair⟩ := Option.map_eq_some_iff.mp h
    obtain ⟨-, rfl⟩ := Prod.mk.inj hpair
    exact hafter

theorem readEscape_suffix {cs rest : List Char} {c : Char} (h : readEscape standIn? cs = some (c, rest)) :
    rest <:+ cs := by
  unfold readEscape at h
  split at h
  case h_9 => exact (readUnitEscape_suffix h).trans (List.suffix_cons _ _)
  case h_10 => cases h
  all_goals
    obtain ⟨-, rfl⟩ := Prod.mk.inj (Option.some.inj h)
    exact List.suffix_cons _ _

theorem readChars_suffix {fuel : Nat} {cs ds rest : List Char} (h : readChars standIn? fuel cs = some (ds, rest)) :
    rest <:+ cs := by
  induction fuel generalizing cs ds with
  | zero => cases h
  | succ fuel ih =>
      cases cs with
      | nil => cases h
      | cons c cs =>
          have hcons : cs <:+ c :: cs := List.suffix_cons c cs
          rw [readChars] at h
          split at h
          · obtain ⟨-, rfl⟩ := Prod.mk.inj (Option.some.inj h)
            exact hcons
          split at h
          · simp only [Option.bind_eq_bind, Option.bind_eq_some_iff, Prod.exists, pure, Option.some.injEq,
              Prod.mk.injEq] at h
            obtain ⟨_, after, hescape, _, _, hchars, -, rfl⟩ := h
            exact (ih hchars).trans ((readEscape_suffix hescape).trans hcons)
          split at h
          · cases h
          · simp only [Option.bind_eq_bind, Option.bind_eq_some_iff, Prod.exists, pure, Option.some.injEq,
              Prod.mk.injEq] at h
            obtain ⟨_, _, hchars, -, rfl⟩ := h
            exact (ih hchars).trans hcons

theorem readText_suffix {cs rest : List Char} {s : String} (h : readText standIn? cs = some (s, rest)) :
    rest <:+ cs := by
  rw [readText, Option.map_eq_some_iff] at h
  obtain ⟨⟨ds, after⟩, hchars, h⟩ := h
  obtain ⟨-, rfl⟩ := Prod.mk.inj h
  exact readChars_suffix hchars

end

theorem readDigits_suffix {cs ds rest : List Char} (h : readDigits cs = some (ds, rest)) : rest <:+ cs := by
  rw [readDigits] at h
  split at h
  · cases h
  · obtain ⟨-, rfl⟩ := Prod.mk.inj (Option.some.inj h)
    exact List.dropWhile_suffix _

theorem readWhole_suffix {cs ds rest : List Char} (h : readWhole cs = some (ds, rest)) : rest <:+ cs := by
  unfold readWhole at h
  split at h
  · obtain ⟨-, rfl⟩ := Prod.mk.inj (Option.some.inj h)
    exact List.suffix_cons _ _
  · split at h
    · obtain ⟨-, rfl⟩ := Prod.mk.inj (Option.some.inj h)
      exact (List.dropWhile_suffix _).trans (List.suffix_cons _ _)
    · cases h
  · cases h

theorem readFraction_suffix {cs rest : List Char} {ds : Option (List Char)} (h : readFraction cs = some (ds, rest)) :
    rest <:+ cs := by
  unfold readFraction at h
  split at h
  · rw [Option.map_eq_some_iff] at h
    obtain ⟨⟨_, _⟩, hdigits, h⟩ := h
    obtain ⟨-, rfl⟩ := Prod.mk.inj h
    exact (readDigits_suffix hdigits).trans (List.suffix_cons _ _)
  · obtain ⟨-, rfl⟩ := Prod.mk.inj (Option.some.inj h)
    exact List.suffix_rfl

theorem splitSign_suffix (cs : List Char) : (splitSign cs).2 <:+ cs := by
  unfold splitSign
  split
  · exact List.suffix_cons _ _
  · exact List.suffix_cons _ _
  · exact List.suffix_rfl

theorem readExponent_suffix {cs rest : List Char} {n : Option Int} (h : readExponent cs = some (n, rest)) :
    rest <:+ cs := by
  unfold readExponent at h
  split at h
  · split at h
    · rw [Option.map_eq_some_iff] at h
      obtain ⟨⟨_, _⟩, hdigits, h⟩ := h
      obtain ⟨-, rfl⟩ := Prod.mk.inj h
      exact (readDigits_suffix hdigits).trans ((splitSign_suffix _).trans (List.suffix_cons _ _))
    · obtain ⟨-, rfl⟩ := Prod.mk.inj (Option.some.inj h)
      exact List.suffix_rfl
  · obtain ⟨-, rfl⟩ := Prod.mk.inj (Option.some.inj h)
    exact List.suffix_rfl

theorem readMagnitude_suffix {longFloats negative : Bool} {cs rest : List Char} {j : Json}
    (h : readMagnitude longFloats negative cs = some (j, rest)) : rest <:+ cs := by
  simp only [readMagnitude, Option.bind_eq_bind, Option.bind_eq_some_iff, Prod.exists] at h
  obtain ⟨_, after, hwhole, _, after', hfraction, _, after'', hexponent, h⟩ := h
  have hafter : after'' <:+ cs :=
    (readExponent_suffix hexponent).trans ((readFraction_suffix hfraction).trans (readWhole_suffix hwhole))
  split at h
  · cases h
  split at h
  all_goals
    obtain ⟨-, rfl⟩ := Prod.mk.inj (Option.some.inj h)
    exact hafter

theorem readScalar_suffix {longFloats : Bool} {cs rest : List Char} {j : Json}
    (h : readScalar longFloats cs = some (j, rest)) : rest <:+ cs := by
  unfold readScalar at h
  split at h
  · rename_i hword
    obtain ⟨w, -, hword⟩ := List.exists_of_findSome?_eq_some hword
    rw [Option.map_eq_some_iff] at hword
    obtain ⟨after, hexpect, rfl⟩ := hword
    obtain ⟨-, rfl⟩ := Prod.mk.inj (Option.some.inj h)
    exact expect_suffix hexpect
  · split at h
    · exact (readMagnitude_suffix h).trans (List.suffix_cons _ _)
    · exact readMagnitude_suffix h

/-! ### Depth and opening signs -/

/-- What a reading within a depth does with a text: it leaves an end of it, or fails, and for want of depth only where
the text has more opening signs than that. -/
def Bounded {α : Type} (depth : Nat) (cs : List Char) : Except ReadFault (α × List Char) → Prop
  | .ok (_, rest) => rest <:+ cs
  | .error .malformed => True
  | .error (.tooDeep _) => depth < openings cs

namespace Bounded

variable {α β : Type} {depth : Nat} {cs cs' : List Char}

theorem orMalformed {r : Option (α × List Char)} (h : ∀ a rest, r = some (a, rest) → rest <:+ cs) :
    Bounded depth cs (Json.orMalformed r) := by
  cases r with
  | none => trivial
  | some r => exact h r.1 r.2 rfl

theorem mono {x : Except ReadFault (α × List Char)} (h : Bounded depth cs' x) (hcs : cs' <:+ cs) :
    Bounded depth cs x := by
  cases x with
  | ok r => exact List.IsSuffix.trans h hcs
  | error e =>
      cases e with
      | malformed => trivial
      | tooDeep => exact Nat.lt_of_lt_of_le h (openings_le_of_suffix hcs)

/-- What is read after an opening sign may open one fewer. -/
theorem opened {x : Except ReadFault (α × List Char)} {c : Char} (h : Bounded depth cs' x)
    (hc : isOpening c = true) (hcs : c :: cs' <:+ cs) : Bounded (depth + 1) cs x := by
  cases x with
  | ok r => exact (List.IsSuffix.trans h (List.suffix_cons c cs')).trans hcs
  | error e =>
      cases e with
      | malformed => trivial
      | tooDeep =>
          have hmore : depth < openings cs' := h
          have hle := openings_le_of_suffix hcs
          simp only [openings, List.countP_cons_of_pos hc] at hle hmore
          change depth + 1 < openings cs
          rw [openings]
          omega

theorem map {x : Except ReadFault (α × List Char)} {f : α → β} (h : Bounded depth cs x) :
    Bounded depth cs (x.map fun r => (f r.1, r.2)) := by
  cases x with
  | ok r => exact h
  | error e => cases e <;> exact h

theorem bind {x : Except ReadFault (α × List Char)} {f : α × List Char → Except ReadFault (β × List Char)}
    (h : Bounded depth cs x) (hf : ∀ a rest, rest <:+ cs → Bounded depth cs (f (a, rest))) :
    Bounded depth cs (x >>= f) := by
  cases x with
  | ok r => exact hf r.1 r.2 h
  | error e => cases e <;> exact h

end Bounded

theorem openings_pos {cs rest : List Char} {c : Char} (hc : isOpening c = true) (h : skipBlanks cs = c :: rest) :
    0 < openings cs := by
  have hle := openings_le_of_suffix (h ▸ skipBlanks_suffix cs)
  simp only [openings, List.countP_cons_of_pos hc] at hle
  rw [openings]
  omega

/-- The bounds that the readers of documents, of items and of members keep with some fuel. -/
structure ReadersBounded (tolerance : Tolerance) (fuel : Nat) : Prop where
  document : ∀ depth cs, Bounded depth cs (readDocument tolerance fuel depth cs)
  items : ∀ depth cs, Bounded depth cs (readItems tolerance fuel depth cs)
  members : ∀ depth cs, Bounded depth cs (readMembers tolerance fuel depth cs)

namespace ReadersBounded

variable {tolerance : Tolerance} {fuel : Nat}

-- of the three only this one goes deeper, and what it opens is one more opening sign
theorem document_succ (h : ReadersBounded tolerance fuel) (depth : Nat) (cs : List Char) :
    Bounded depth cs (readDocument tolerance (fuel + 1) depth cs) := by
  rw [readDocument]
  split
  case h_1 hopen =>
    apply Bounded.orMalformed
    intro a rest hread
    obtain ⟨⟨s, after⟩, htext, heq⟩ := Option.map_eq_some_iff.mp hread
    obtain ⟨-, rfl⟩ := Prod.mk.inj heq
    exact (readText_suffix htext).trans (suffix_of_skipBlanks hopen)
  case h_2 hopen =>
    split
    · exact openings_pos rfl hopen
    · rename_i hclose
      exact (suffix_of_skipBlanks hclose).trans (suffix_of_skipBlanks hopen)
    · exact (h.items _ _).map.opened rfl (hopen ▸ skipBlanks_suffix cs)
  case h_3 hopen =>
    split
    · exact openings_pos rfl hopen
    · rename_i hclose
      exact (suffix_of_skipBlanks hclose).trans (suffix_of_skipBlanks hopen)
    · exact (h.members _ _).map.opened rfl (hopen ▸ skipBlanks_suffix cs)
  case h_4 =>
    apply Bounded.orMalformed
    intro a rest hread
    exact (readScalar_suffix hread).trans (skipBlanks_suffix cs)

theorem items_succ (h : ReadersBounded tolerance fuel) (depth : Nat) (cs : List Char) :
    Bounded depth cs (readItems tolerance (fuel + 1) depth cs) := by
  rw [readItems]
  apply (h.document _ _).bind
  intro j after hafter
  simp only
  split
  · rename_i hclose
    exact (suffix_of_skipBlanks hclose).trans hafter
  · rename_i hcomma
    have hrest := (suffix_of_skipBlanks hcomma).trans hafter
    exact ((h.items _ _).mono hrest).bind fun js rest hread => hread
  · trivial

theorem members_succ (h : ReadersBounded tolerance fuel) (depth : Nat) (cs : List Char) :
    Bounded depth cs (readMembers tolerance (fuel + 1) depth cs) := by
  rw [readMembers]
  split
  · rename_i hopen
    have hname : Bounded depth cs (Json.orMalformed (readText tolerance.standIn? _)) :=
      .orMalformed fun k after hread => (readText_suffix hread).trans (suffix_of_skipBlanks hopen)
    apply hname.bind
    intro k after hafter
    simp only
    split
    · rename_i hcolon
      have hvalue := (suffix_of_skipBlanks hcolon).trans hafter
      apply ((h.document _ _).mono hvalue).bind
      intro j after' hafter'
      simp only
      split
      · rename_i hclose
        exact (suffix_of_skipBlanks hclose).trans hafter'
      · rename_i hcomma
        have hrest := (suffix_of_skipBlanks hcomma).trans hafter'
        exact ((h.members _ _).mono hrest).bind fun ms rest hread => hread
      · trivial
    · trivial
  · trivial

end ReadersBounded

theorem readersBounded (tolerance : Tolerance) (fuel : Nat) : ReadersBounded tolerance fuel := by
  induction fuel with
  | zero =>
      constructor
      · intro depth cs
        rw [readDocument]
        trivial
      · intro depth cs
        rw [readItems]
        trivial
      · intro depth cs
        rw [readMembers]
        trivial
  | succ fuel ih => exact ⟨ih.document_succ, ih.items_succ, ih.members_succ⟩

/-- A reader gives up for want of depth only on a text with more opening signs than that. -/
theorem depth_lt_openings {limits : Limits} {cs : List Char} {container : Container}
    (h : parse limits cs = .error (.tooDeep container)) : limits.depth < openings cs := by
  have hread := (readersBounded limits.tolerance (2 * cs.length + 1)).document limits.depth cs
  rw [parse] at h
  cases hdocument : readDocument limits.tolerance (2 * cs.length + 1) limits.depth cs with
  | ok r =>
      rw [hdocument, bind_ok] at h
      simp only at h
      split at h <;> cases h
  | error e =>
      rw [hdocument] at h hread
      obtain rfl : e = .tooDeep container := Except.error.inj h
      exact hread

/-! ### Arrays in arrays -/

theorem readDocument_brackets (tolerance : Tolerance) {depth fuel : Nat} (hfuel : 2 * depth < fuel) (rest : List Char) :
    readDocument tolerance fuel depth (List.replicate (depth + 1) '[' ++ rest) = .error (.tooDeep .array) := by
  induction depth generalizing fuel with
  | zero =>
      obtain ⟨fuel, rfl⟩ : ∃ f, fuel = f + 1 := ⟨fuel - 1, by omega⟩
      rw [readDocument]
      rfl
  | succ depth ih =>
      obtain ⟨fuel, rfl⟩ : ∃ f, fuel = f + 2 := ⟨fuel - 2, by omega⟩
      rw [List.replicate_succ, List.cons_append, List.replicate_succ, List.cons_append,
        readDocument_array (skipBlanks_cons rfl _) (skipBlanks_ne rfl (by decide) _), ← List.cons_append,
        ← List.replicate_succ, readItems,
        ih (by omega)]
      rfl

/-- A text that opens more arrays than the depth before anything else is given up for want of depth, whatever
follows. -/
theorem parse_brackets (limits : Limits) (rest : List Char) :
    parse limits (List.replicate (limits.depth + 1) '[' ++ rest) = .error (.tooDeep .array) := by
  rw [parse, readDocument_brackets limits.tolerance]
  · rfl
  · simp only [List.length_append, List.length_replicate]
    omega

end DaemonClient.Json
