import DaemonClient.Number.Reading
import DaemonClient.Text.Quoted
import Mathlib.Data.List.TakeWhile

/-! Digits that are written read back as the number: decimal digits of any natural, and the four hexadecimal digits of
a UTF-16 unit. -/

namespace DaemonClient

theorem isAsciiDigit_eq_isDigit (c : Char) : isAsciiDigit c = c.isDigit := rfl

theorem isAsciiDigit_of_mem_decimalDigits {n : Nat} {c : Char} (h : c ∈ decimalDigits n) : isAsciiDigit c = true := by
  rw [isAsciiDigit_eq_isDigit]
  exact Nat.isDigit_of_mem_toDigits (by decide) (by decide) h

theorem asciiValue_eq_ofDigitChars (cs : List Char) : asciiValue cs = Nat.ofDigitChars 10 cs 0 := by
  rw [asciiValue, digitsValue, List.foldl_map]
  rfl

@[simp] theorem asciiValue_decimalDigits (n : Nat) : asciiValue (decimalDigits n) = n := by
  rw [asciiValue_eq_ofDigitChars, decimalDigits, Nat.ofDigitChars_ten_toDigits]

theorem length_decimalDigits_le {n k : Nat} (hk : 0 < k) (h : n < Nat.pow 10 k) : (decimalDigits n).length ≤ k :=
  (Nat.length_toDigits_le_iff (by decide) hk).mpr h

/-- The first digit is a zero only for zero itself, which has no other digit. -/
theorem decimalDigits_eq_cons (n : Nat) :
    ∃ c ds, decimalDigits n = c :: ds ∧ (c = '0' → n = 0 ∧ ds = []) := by
  induction n using Nat.strongRecOn with
  | ind n ih =>
      rw [decimalDigits, Nat.toDigits_eq_if (by decide)]
      split
      · refine ⟨_, [], rfl, fun h => ⟨Nat.digitChar_eq_zero.mp h, rfl⟩⟩
      · obtain ⟨c, ds, hds, hc⟩ := ih (n / 10) (by omega)
        rw [decimalDigits] at hds
        refine ⟨c, ds ++ [Nat.digitChar (n % 10)], by rw [hds]; rfl, fun h => ?_⟩
        have := (hc h).1
        omega

/-- The part with a property at the beginning of a text ends where it did before what follows was put after it. -/
theorem span_append {p : Char → Bool} {more : List Char} (cs : List Char) (hmore : ∀ c ∈ more.head?, p c = false) :
    (cs ++ more).takeWhile p = cs.takeWhile p ∧ (cs ++ more).dropWhile p = cs.dropWhile p ++ more := by
  induction cs with
  | nil =>
      cases more with
      | nil => exact ⟨rfl, rfl⟩
      | cons c more => simp [hmore c rfl]
  | cons c cs ih =>
      rw [List.cons_append, List.takeWhile_cons, List.dropWhile_cons, List.takeWhile_cons, List.dropWhile_cons, ih.1,
        ih.2]
      cases p c <;> exact ⟨rfl, rfl⟩

theorem takeWhile_decimalDigits {ds rest : List Char} (hds : ∀ c ∈ ds, isAsciiDigit c = true)
    (hrest : ∀ c ∈ rest.head?, isAsciiDigit c = false) :
    (ds ++ rest).takeWhile isAsciiDigit = ds ∧ (ds ++ rest).dropWhile isAsciiDigit = rest := by
  obtain ⟨htake, hdrop⟩ := span_append ds hrest
  rw [htake, hdrop, List.takeWhile_eq_self_iff.mpr hds, List.dropWhile_eq_nil_iff.mpr hds]
  exact ⟨rfl, List.nil_append rest⟩

theorem hexValue?_digitChar {n : Nat} (h : n < 16) : hexValue? (Nat.digitChar n) = some n := by
  have hall : ∀ n < 16, hexValue? (Nat.digitChar n) = some n := by decide
  exact hall n h

/-- The four digits of a number below 2^16. -/
theorem hexDigits_four {n : Nat} (h : n < 0x10000) :
    Text.hexDigits 4 n = [Nat.digitChar (n / 4096), Nat.digitChar (n / 256 % 16), Nat.digitChar (n / 16 % 16),
      Nat.digitChar (n % 16)] := by
  have hstep (m : Nat) : Nat.toDigits 16 m =
      if m < 16 then [Nat.digitChar m] else Nat.toDigits 16 (m / 16) ++ [Nat.digitChar (m % 16)] :=
    Nat.toDigits_eq_if (by decide)
  have hzero : Nat.digitChar 0 = '0' := rfl
  rw [Text.hexDigits]
  by_cases h1 : n < 16
  · rw [hstep, if_pos h1, show n / 4096 = 0 by omega, show n / 256 % 16 = 0 by omega, show n / 16 % 16 = 0 by omega,
      show n % 16 = n by omega]
    rfl
  rw [hstep, if_neg h1]
  by_cases h2 : n / 16 < 16
  · rw [hstep, if_pos h2, show n / 4096 = 0 by omega, show n / 256 % 16 = 0 by omega,
      show n / 16 % 16 = n / 16 by omega]
    rfl
  rw [hstep, if_neg h2]
  by_cases h3 : n / 16 / 16 < 16
  · rw [hstep, if_pos h3, show n / 4096 = 0 by omega, show n / 256 % 16 = n / 16 / 16 by omega]
    rfl
  rw [hstep, if_neg h3, hstep, if_pos (by omega), show n / 4096 = n / 16 / 16 / 16 by omega,
    show n / 256 % 16 = n / 16 / 16 % 16 by omega]
  rfl

end DaemonClient
