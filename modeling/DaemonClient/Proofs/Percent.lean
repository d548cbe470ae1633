import DaemonClient.Http.Request
import DaemonClient.Proofs.Utf8

/-! A query string reads back as the pairs it was made of (`readPairs_queryString`). Octets survive percent-encoding
because an escape has two hexadecimal digits and no unreserved character is a percent sign; parts survive joining
because neither separator can stand in an encoded part. -/

namespace DaemonClient.Percent

/-! ### Octets -/

theorem hexValue?_hexUpper {n : Nat} (h : n < 16) : hexValue? (hexUpper n) = some n := by
  have hall : ∀ n < 16, hexValue? (hexUpper n) = some n := by decide
  exact hall n h

theorem toNat_ofNat_octet (b : UInt8) : (Char.ofNat b.toNat).toNat = b.toNat := by
  have hb := b.toNat_lt
  rw [Char.ofNat, dif_pos (show b.toNat.isValidChar from .inl (by omega))]
  rfl

theorem decode_unreserved {c : Char} (h : isUnreserved c = true) (rest : List Char) :
    decode (c :: rest) = (UInt8.ofNat c.toNat :: ·) <$> decode rest := by
  have hne : c ≠ '%' := by
    rintro rfl
    exact absurd h (by decide)
  rw [decode]
  · rw [if_pos h]
  · exact fun _ _ _ hc _ => hne hc

theorem decode_escape {x y : Nat} (hx : x < 16) (hy : y < 16) (rest : List Char) :
    decode ('%' :: hexUpper x :: hexUpper y :: rest) = (UInt8.ofNat (16 * x + y) :: ·) <$> decode rest := by
  rw [decode, hexValue?_hexUpper hx, hexValue?_hexUpper hy]
  cases decode rest <;> rfl

theorem decode_encodeOctet (b : UInt8) (rest : List Char) :
    decode (encodeOctet b ++ rest) = (b :: ·) <$> decode rest := by
  have hb := b.toNat_lt
  simp only [encodeOctet]
  split
  · rename_i h
    rw [List.singleton_append, decode_unreserved h, toNat_ofNat_octet, UInt8.ofNat_toNat]
  · have hsum : 16 * (b.toNat / 16) + b.toNat % 16 = b.toNat := by omega
    simp only [List.cons_append, List.nil_append]
    rw [decode_escape (by omega) (by omega), hsum, UInt8.ofNat_toNat]

theorem decode_encode (bs : List UInt8) : decode (encode bs) = some bs := by
  induction bs with
  | nil => rfl
  | cons b bs ih =>
      rw [encode] at ih ⊢
      rw [List.flatMap_cons, decode_encodeOctet, ih]
      rfl

/-- An encoded text decodes to that text. -/
theorem decodeText_encodeText (s : String) : decodeText (encodeText s) = some s := by
  rw [decodeText, encodeText, decode_encode]
  simp only [Utf8.decode_encode, Except.toOption]

/-! ### Separators -/

theorem hexUpper_ne_separator {n : Nat} (h : n < 16) : hexUpper n ≠ '&' ∧ hexUpper n ≠ '=' := by
  have hall : ∀ n < 16, hexUpper n ≠ '&' ∧ hexUpper n ≠ '=' := by decide
  exact hall n h

theorem not_mem_encode {separator : Char} (hs : separator = '&' ∨ separator = '=') (bs : List UInt8) :
    separator ∉ encode bs := by
  rw [encode, List.mem_flatMap]
  rintro ⟨b, -, hmem⟩
  have hb := b.toNat_lt
  simp only [encodeOctet] at hmem
  split at hmem
  · rename_i h
    obtain rfl := List.mem_singleton.mp hmem
    rcases hs with hs | hs <;>
    · rw [hs] at h
      exact absurd h (by decide)
  · have hhigh := hexUpper_ne_separator (show b.toNat / 16 < 16 by omega)
    have hlow := hexUpper_ne_separator (show b.toNat % 16 < 16 by omega)
    simp only [List.mem_cons, List.not_mem_nil, or_false] at hmem
    rcases hs with rfl | rfl <;> rcases hmem with hmem | hmem | hmem
    · exact absurd hmem (by decide)
    · exact hhigh.1 hmem.symm
    · exact hlow.1 hmem.symm
    · exact absurd hmem (by decide)
    · exact hhigh.2 hmem.symm
    · exact hlow.2 hmem.symm

theorem split_of_not_mem {separator : Char} {p : List Char} (h : separator ∉ p) : split separator p = [p] := by
  induction p with
  | nil => rfl
  | cons c p ih =>
      rw [List.mem_cons, not_or] at h
      rw [split, if_neg (by simpa using Ne.symm h.1), ih h.2]

theorem split_append {separator : Char} {p : List Char} (h : separator ∉ p) (rest : List Char) :
    split separator (p ++ separator :: rest) = p :: split separator rest := by
  induction p with
  | nil => simp [split]
  | cons c p ih =>
      rw [List.mem_cons, not_or] at h
      rw [List.cons_append, split, if_neg (by simpa using Ne.symm h.1), ih h.2]

theorem split_joinPairs {parts : List (List Char)} (hne : parts ≠ []) (h : ∀ p ∈ parts, '&' ∉ p) :
    split '&' (joinPairs parts) = parts := by
  induction parts with
  | nil => exact absurd rfl hne
  | cons p parts ih =>
      obtain ⟨hp, hparts⟩ := List.forall_mem_cons.mp h
      cases parts with
      | nil => rw [joinPairs, split_of_not_mem hp]
      | cons q parts =>
          rw [joinPairs, split_append hp, ih (List.cons_ne_nil _ _) hparts]
          exact List.cons_ne_nil _ _

/-! ### Pairs -/

/-- A pair of texts, encoded. -/
def encodePair (p : String × String) : List Char := joinPair (encodeText p.1) (encodeText p.2)

theorem separator_not_mem_encodePair (p : String × String) : '&' ∉ encodePair p := by
  rw [encodePair, joinPair, List.mem_append, List.mem_cons, not_or, not_or]
  exact ⟨not_mem_encode (.inl rfl) _, by decide, not_mem_encode (.inl rfl) _⟩

theorem split_encodePair (p : String × String) : split '=' (encodePair p) = [encodeText p.1, encodeText p.2] := by
  simp only [encodePair, joinPair, encodeText]
  rw [split_append (not_mem_encode (.inr rfl) _), split_of_not_mem (not_mem_encode (.inr rfl) _)]

/-- The pairs of an encoded list of pairs are those of the list. -/
theorem readPairs_joinPairs {pairs : List (String × String)} (hne : pairs ≠ []) :
    readPairs (joinPairs (pairs.map encodePair)) = some pairs := by
  rw [readPairs, split_joinPairs (by simpa using hne) (by
    intro part hpart
    obtain ⟨p, -, rfl⟩ := List.mem_map.mp hpart
    exact separator_not_mem_encodePair p)]
  clear hne
  induction pairs with
  | nil => rfl
  | cons p pairs ih =>
      simp only [List.map_cons, List.mapM_cons, split_encodePair, decodeText_encodeText, ih]
      rfl

/-- A query string of texts reads back as the pairs it was made of. -/
theorem readPairs_queryString {pairs : List (String × String)} (hne : pairs ≠ []) :
    readPairs (queryString (pairs.map fun p => (.text p.1, .text p.2))) = some pairs := by
  rw [queryString, List.map_map]
  exact readPairs_joinPairs hne

end DaemonClient.Percent
