import DaemonClient.Json.Reader
import DaemonClient.Json.Writer
import DaemonClient.Proofs.Digits

/-! Reading strings, numbers and words takes back what writing put down. Each reader is stated with the text that follows
what it reads, so that the readers of parts compose to the reader of a document. -/

namespace DaemonClient.Json

/-! ### Strings -/

theorem readUnit_hexDigits {n : Nat} (h : n < 0x10000) (rest : List Char) :
    readUnit (Text.hexDigits 4 n ++ rest) = some (n, rest) := by
  rw [hexDigits_four h]
  simp only [List.cons_append, List.nil_append, readUnit]
  rw [hexValue?_digitChar (by omega), hexValue?_digitChar (by omega), hexValue?_digitChar (by omega),
    hexValue?_digitChar (by omega)]
  have hsum : n / 4096 * 4096 + n / 256 % 16 * 256 + n / 16 % 16 * 16 + n % 16 = n := by omega
  simp only [Option.bind_eq_bind, Option.bind_some, Option.pure_def, hsum]

theorem unitEscape_append (n : Nat) (rest : List Char) :
    unitEscape n ++ rest = '\\' :: 'u' :: (Text.hexDigits 4 n ++ rest) := rfl

theorem readLowEscape_unitEscape {n : Nat} (h : 0xDC00 ≤ n ∧ n < 0xE000) (rest : List Char) :
    readLowEscape (unitEscape n ++ rest) = some (n, rest) := by
  rw [unitEscape_append, readLowEscape, readUnit_hexDigits (by omega)]
  simp [Option.filter, h.1, h.2]

section
variable (standIn? : Option (Nat → Char))

/-- The escape of a UTF-16 unit that is a character by itself. -/
theorem readUnitEscape_single {n : Nat} (h : n < 0xD800 ∨ 0xE000 ≤ n) (hn : n < 0x10000) (rest : List Char) :
    readUnitEscape standIn? (Text.hexDigits 4 n ++ rest) = some (Char.ofNat n, rest) := by
  rw [readUnitEscape, readUnit_hexDigits hn]
  have hunit : (n < 0xD800 || 0xE000 ≤ n) = true := by simpa using h
  simp only [Option.bind_eq_bind, Option.bind_some, Option.pure_def]
  rw [hunit, if_pos rfl]

/-- The escapes of the two UTF-16 units of a character beyond them. -/
theorem readUnitEscape_pair {m : Nat} (h : m < 0x100000) (rest : List Char) :
    readUnitEscape standIn? (Text.hexDigits 4 (0xD800 + m / 0x400) ++ (unitEscape (0xDC00 + m % 0x400) ++ rest)) =
      some (Char.ofNat (0x10000 + m), rest) := by
  have hunit : (0xD800 + m / 0x400 < 0xD800 || 0xE000 ≤ 0xD800 + m / 0x400) = false := by
    simp only [Bool.or_eq_false_iff, decide_eq_false_iff_not]
    omega
  have hhigh : 0xD800 + m / 0x400 < 0xDC00 := by omega
  have hsum : 0x10000 + (0xD800 + m / 0x400 - 0xD800) * 0x400 + (0xDC00 + m % 0x400 - 0xDC00) = 0x10000 + m := by
    omega
  rw [readUnitEscape, readUnit_hexDigits (by omega)]
  simp only [Option.bind_eq_bind, Option.bind_some, Option.pure_def, hunit, Bool.false_eq_true, if_false, if_pos hhigh]
  rw [readLowEscape_unitEscape (by omega)]
  simp only [hsum]

/-- One written character reads back, and takes one unit of fuel. -/
theorem readChars_escapeChar (fuel : Nat) (c : Char) (rest : List Char) :
    readChars standIn? (fuel + 1) (escapeChar c ++ rest) =
      (readChars standIn? fuel rest).map fun r => (c :: r.1, r.2) := by
  have hc : c.toNat < 0xD800 ∨ 0xDFFF < c.toNat ∧ c.toNat < 0x110000 := c.valid
  have hback : Char.ofNat c.toNat = c := Char.ofNat_toNat c
  have hescape (tail : List Char) (h : readEscape standIn? tail = some (c, rest)) :
      readChars standIn? (fuel + 1) ('\\' :: tail) = (readChars standIn? fuel rest).map fun r => (c :: r.1, r.2) := by
    rw [readChars, if_neg (by decide), if_pos (by decide), h]
    simp only [Option.bind_eq_bind, Option.bind_some]
    cases readChars standIn? fuel rest <;> simp
  rw [escapeChar]
  split
  · rename_i h; obtain rfl := eq_of_beq h; exact hescape _ rfl
  split
  · rename_i h; obtain rfl := eq_of_beq h; exact hescape _ rfl
  split
  · rename_i h; obtain rfl := eq_of_beq h; exact hescape _ rfl
  split
  · rename_i h; obtain rfl := eq_of_beq h; exact hescape _ rfl
  split
  · rename_i h; obtain rfl := eq_of_beq h; exact hescape _ rfl
  split
  · rename_i h; obtain rfl := eq_of_beq h; exact hescape _ rfl
  split
  · rename_i h; obtain rfl := eq_of_beq h; exact hescape _ rfl
  rename_i hquote hslash _ _ _ _ _
  split
  · rename_i h
    have hblank : ¬c < ' ' := by
      simp only [Bool.and_eq_true, decide_eq_true_eq] at h
      exact Char.not_lt.mpr h.1
    rw [List.singleton_append, readChars, if_neg hquote, if_neg hslash, if_neg hblank]
    cases readChars standIn? fuel rest <;> simp
  split
  · rename_i h
    rw [unitEscape_append]
    apply hescape
    rw [readEscape, readUnitEscape_single standIn? (by omega) h, hback]
  · rename_i h
    rw [List.append_assoc, unitEscape_append]
    apply hescape
    rw [readEscape, readUnitEscape_pair standIn? (by omega),
      show 0x10000 + (c.toNat - 0x10000) = c.toNat by omega, hback]

theorem readChars_escaped (cs : List Char) (rest : List Char) {fuel : Nat} (h : cs.length < fuel) :
    readChars standIn? fuel (cs.flatMap escapeChar ++ '"' :: rest) = some (cs, rest) := by
  induction cs generalizing fuel with
  | nil =>
      obtain ⟨fuel, rfl⟩ := Nat.exists_eq_add_of_lt h
      simp [readChars]
  | cons c cs ih =>
      obtain ⟨fuel, rfl⟩ := Nat.exists_eq_add_of_lt h
      rw [List.flatMap_cons, List.append_assoc, show (c :: cs).length + fuel + 1 = (cs.length + fuel + 1) + 1 by
        simp only [List.length_cons]; omega, readChars_escapeChar, ih (by omega)]
      rfl

@[simp] theorem unitEscape_ne_nil (n : Nat) : unitEscape n ≠ [] := List.cons_ne_nil _ _

theorem escapeChar_ne_nil (c : Char) : escapeChar c ≠ [] := by
  unfold escapeChar
  repeat' split
  all_goals simp

theorem length_le_escaped (cs : List Char) : cs.length ≤ (cs.flatMap escapeChar).length := by
  induction cs with
  | nil => exact Nat.le_refl _
  | cons c cs ih =>
      have hc := List.length_pos_iff.mpr (escapeChar_ne_nil c)
      rw [List.flatMap_cons, List.length_append, List.length_cons]
      omega

/-- A written text reads back, after its opening quote. -/
theorem readText_escaped (s : String) (rest : List Char) :
    readText standIn? (s.toList.flatMap escapeChar ++ '"' :: rest) = some (s, rest) := by
  have hlen := length_le_escaped s.toList
  rw [readText, readChars_escaped _ _ _ (by rw [List.length_append]; omega)]
  simp only [Option.map_some, String.ofList_toList]

end

/-! ### Numbers and words -/

/-- Text that cannot go on with a number. -/
def Delimits (rest : List Char) : Prop :=
  ∀ c ∈ rest.head?, isAsciiDigit c = false ∧ c ≠ '.' ∧ c ≠ 'e' ∧ c ≠ 'E'

theorem delimits_nil : Delimits [] := by simp [Delimits]

/-- The digits of an integer part: a zero in front stands alone. -/
def IsWhole (ds : List Char) : Prop :=
  ∃ c cs, ds = c :: cs ∧ (∀ d ∈ c :: cs, isAsciiDigit d = true) ∧ (c = '0' → cs = [])

theorem isWhole_decimalDigits (n : Nat) : IsWhole (decimalDigits n) := by
  obtain ⟨c, ds, hds, hzero⟩ := decimalDigits_eq_cons n
  exact ⟨c, ds, hds, fun d hd => isAsciiDigit_of_mem_decimalDigits (hds ▸ hd), fun hc => (hzero hc).2⟩

theorem readWhole_append {ds rest : List Char} (hds : IsWhole ds) (hrest : ∀ c ∈ rest.head?, isAsciiDigit c = false) :
    readWhole (ds ++ rest) = some (ds, rest) := by
  obtain ⟨c, cs, rfl, hdigit, hzero⟩ := hds
  rw [List.cons_append]
  by_cases hc : c = '0'
  · rw [hc, hzero hc]
    rfl
  · obtain ⟨htake, hdrop⟩ := takeWhile_decimalDigits (fun d hd => hdigit d (List.mem_cons_of_mem _ hd)) hrest
    rw [readWhole]
    · rw [if_pos (hdigit c List.mem_cons_self), htake, hdrop]
    · exact hc

theorem readWhole_decimalDigits (n : Nat) {rest : List Char} (h : Delimits rest) :
    readWhole (decimalDigits n ++ rest) = some (decimalDigits n, rest) :=
  readWhole_append (isWhole_decimalDigits n) fun c hc => (h c hc).1

theorem readFraction_none {rest : List Char} (h : Delimits rest) : readFraction rest = some (none, rest) := by
  unfold readFraction
  split
  · exact absurd rfl (h '.' rfl).2.1
  · rfl

theorem readExponent_none {rest : List Char} (h : Delimits rest) : readExponent rest = some (none, rest) := by
  unfold readExponent
  split
  · rename_i c rest
    obtain ⟨_, _, he, hE⟩ := h c rfl
    rw [if_neg (by simp [he, hE])]
  · rfl

/-- A written magnitude reads back, if it has no more digits than a reader admits. -/
theorem readMagnitude_decimalDigits {n : Nat} (hn : n < Nat.pow 10 digitLimit) (longFloats negative : Bool)
    {rest : List Char} (h : Delimits rest) :
    readMagnitude longFloats negative (decimalDigits n ++ rest) = some (int (signed negative n), rest) := by
  have hlen : (decimalDigits n).length ≤ digitLimit := length_decimalDigits_le (by decide) hn
  rw [readMagnitude, readWhole_decimalDigits n h]
  simp only [Option.bind_eq_bind, Option.bind_some, readFraction_none h, readExponent_none h, Option.isSome_none,
    Bool.or_self, Bool.false_and, Bool.not_false, Bool.and_true, decide_eq_true_eq, if_neg (Nat.not_lt.mpr hlen),
    if_true, asciiValue_decimalDigits, Option.pure_def]

/-- A text that no word begins. -/
def Wordless (cs : List Char) : Prop := ∀ w ∈ words, expect w.1 cs = none

theorem readScalar_minus (longFloats : Bool) {rest : List Char} (h : Wordless ('-' :: rest)) :
    readScalar longFloats ('-' :: rest) = readMagnitude longFloats true rest := by
  have hnone : (words.findSome? fun w => (expect w.1 ('-' :: rest)).map fun r => (w.2, r)) = none := by
    rw [List.findSome?_eq_none_iff]
    intro w hw
    rw [h w hw, Option.map_none]
  rw [readScalar, hnone]

theorem readScalar_plain (longFloats : Bool) {c : Char} {rest : List Char} (hc : c ≠ '-') (h : Wordless (c :: rest)) :
    readScalar longFloats (c :: rest) = readMagnitude longFloats false (c :: rest) := by
  have hnone : (words.findSome? fun w => (expect w.1 (c :: rest)).map fun r => (w.2, r)) = none := by
    rw [List.findSome?_eq_none_iff]
    intro w hw
    rw [h w hw, Option.map_none]
  rw [readScalar, hnone]
  exact fun _ he => hc (List.cons.inj he).1

theorem wordless_digit {c : Char} (hc : isAsciiDigit c = true) (rest : List Char) : Wordless (c :: rest) := by
  have hne (d : Char) (hd : isAsciiDigit d = false) : (d == c) = false :=
    beq_false_of_ne fun h => Bool.noConfusion (hc.symm.trans (h ▸ hd))
  simp [Wordless, words, expect, hne 'n' (by decide), hne 't' (by decide), hne 'f' (by decide), hne 'N' (by decide),
    hne 'I' (by decide), hne '-' (by decide)]

theorem wordless_minus_digit {c : Char} (hc : isAsciiDigit c = true) (rest : List Char) :
    Wordless ('-' :: c :: rest) := by
  have hI : ('I' == c) = false := by
    apply beq_false_of_ne
    rintro rfl
    exact absurd hc (by decide)
  simp [Wordless, words, expect, hI]

/-- A number is read as its magnitude is, after its sign. -/
theorem readScalar_signed (longFloats negative : Bool) {c : Char} (hc : isAsciiDigit c = true) (cs : List Char) :
    readScalar longFloats ((if negative then ['-'] else []) ++ c :: cs) = readMagnitude longFloats negative (c :: cs) := by
  cases negative
  · apply readScalar_plain longFloats _ (wordless_digit hc cs)
    rintro rfl
    exact absurd hc (by decide)
  · exact readScalar_minus longFloats (wordless_minus_digit hc cs)

theorem decimalText_eq_signed (n : Int) :
    decimalText n = (if decide (n < 0) then ['-'] else []) ++ decimalDigits n.natAbs := by
  rw [decimalText]
  by_cases hn : n < 0 <;> simp [hn]

theorem readScalar_decimalText {n : Int} (hn : exceedsDigitLimit n = false) (longFloats : Bool) {rest : List Char}
    (h : Delimits rest) : readScalar longFloats (decimalText n ++ rest) = some (int n, rest) := by
  obtain ⟨c, ds, hds, -⟩ := decimalDigits_eq_cons n.natAbs
  have hc : isAsciiDigit c = true := isAsciiDigit_of_mem_decimalDigits (hds ▸ List.mem_cons_self)
  have hlimit : n.natAbs < Nat.pow 10 digitLimit := by
    simpa only [exceedsDigitLimit, decide_eq_false_iff_not, Nat.not_le] using hn
  have hsigned : signed (decide (n < 0)) n.natAbs = n := by
    clear hlimit hn
    rw [signed]
    by_cases hnegative : n < 0
    · rw [if_pos (decide_eq_true hnegative)]
      omega
    · rw [if_neg (by simpa using hnegative)]
      omega
  have hread := readMagnitude_decimalDigits hlimit longFloats (decide (n < 0)) h
  rw [hsigned] at hread
  rw [hds, List.cons_append] at hread
  rw [decimalText_eq_signed, hds, List.append_assoc, List.cons_append, readScalar_signed longFloats _ hc, hread]

/-- The first character of an integer's text. -/
def IsNumeral (c : Char) : Prop := isAsciiDigit c = true ∨ c = '-'

theorem decimalText_eq_cons (n : Int) : ∃ c cs, decimalText n = c :: cs ∧ IsNumeral c := by
  obtain ⟨c, ds, hds, -⟩ := decimalDigits_eq_cons n.natAbs
  rw [decimalText, hds]
  split
  · exact ⟨_, _, rfl, .inr rfl⟩
  · exact ⟨_, _, rfl, .inl (isAsciiDigit_of_mem_decimalDigits (hds ▸ List.mem_cons_self))⟩

theorem IsNumeral.ne {c d : Char} (h : IsNumeral c) (hdigit : isAsciiDigit d = false) (hminus : d ≠ '-') : c ≠ d := by
  rintro rfl
  rcases h with h | rfl
  · exact Bool.noConfusion (h.symm.trans hdigit)
  · exact hminus rfl

theorem IsNumeral.not_blank {c : Char} (h : IsNumeral c) : isBlank c = false := by
  simp [isBlank, h.ne (show isAsciiDigit ' ' = false by decide) (by decide),
    h.ne (show isAsciiDigit '\t' = false by decide) (by decide),
    h.ne (show isAsciiDigit '\n' = false by decide) (by decide),
    h.ne (show isAsciiDigit '\r' = false by decide) (by decide)]

end DaemonClient.Json
