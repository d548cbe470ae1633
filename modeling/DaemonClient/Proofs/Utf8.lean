import DaemonClient.Text.Utf8
import DaemonClient.Proofs.Outcome

/-! UTF-8 is one to one: octets read as a text exactly if they are the octets of that text (`decode_eq_ok`). The octets
of a character are the groups of bits of its code point; the machine takes them back one by one, and there are no other
octets that it takes for that character. -/

namespace DaemonClient.Utf8
open Outcome

theorem start_one {b : UInt8} (h : b.toNat < 0x80) : start b = .char (Char.ofNat b.toNat) := by
  simp only [start, if_pos h]

theorem start_two {b : UInt8} (hl : 0xC2 ≤ b.toNat) (hg : b.toNat < 0xE0) :
    start b = .more ⟨b, 1, 1, 0x80, 0xBF, b.toNat - 0xC0⟩ := by
  simp only [start]
  rw [if_neg (by omega), if_neg (by omega), if_pos hg]

theorem start_three {b : UInt8} (hl : 0xE0 ≤ b.toNat) (hg : b.toNat < 0xF0) :
    start b = .more ⟨b, 1, 2, if b.toNat = 0xE0 then 0xA0 else 0x80, if b.toNat = 0xED then 0x9F else 0xBF,
      b.toNat - 0xE0⟩ := by
  simp only [start]
  rw [if_neg (by omega), if_neg (by omega), if_neg (by omega), if_pos hg]

theorem start_four {b : UInt8} (hl : 0xF0 ≤ b.toNat) (hg : b.toNat < 0xF5) :
    start b = .more ⟨b, 1, 3, if b.toNat = 0xF0 then 0x90 else 0x80, if b.toNat = 0xF4 then 0x8F else 0xBF,
      b.toNat - 0xF0⟩ := by
  simp only [start]
  rw [if_neg (by omega), if_neg (by omega), if_neg (by omega), if_neg (by omega), if_pos hg]

theorem start_bad {b : UInt8} (h : 0x80 ≤ b.toNat ∧ b.toNat < 0xC2 ∨ 0xF5 ≤ b.toNat) : start b = .bad := by
  simp only [start]
  rw [if_neg (by omega)]
  split
  · rfl
  · rw [if_neg (by omega), if_neg (by omega), if_neg (by omega)]

theorem push_char {p : Pending} {b : UInt8} (hl : p.least ≤ b.toNat) (hg : b.toNat ≤ p.greatest)
    (hn : p.need ≤ 1) : p.push b = .char (Char.ofNat (p.value * 64 + (b.toNat - 0x80))) := by
  simp only [Pending.push]
  rw [if_pos ⟨hl, hg⟩, if_pos hn]

theorem push_more {p : Pending} {b : UInt8} (hl : p.least ≤ b.toNat) (hg : b.toNat ≤ p.greatest)
    (hn : 1 < p.need) :
    p.push b = .more ⟨p.lead, p.seen + 1, p.need - 1, 0x80, 0xBF, p.value * 64 + (b.toNat - 0x80)⟩ := by
  simp only [Pending.push]
  rw [if_pos ⟨hl, hg⟩, if_neg (by omega)]

/-- The octets of a code point, as numbers: groups of six bits after a first one that tells how many there are. -/
def groups (n : Nat) : List Nat :=
  if n ≤ 0x7F then [n]
  else if n ≤ 0x7FF then [0xC0 + n / 64, 0x80 + n % 64]
  else if n ≤ 0xFFFF then [0xE0 + n / 4096, 0x80 + n / 64 % 64, 0x80 + n % 64]
  else [0xF0 + n / 262144, 0x80 + n / 4096 % 64, 0x80 + n / 64 % 64, 0x80 + n % 64]

theorem map_toNat_encodeChar (c : Char) : (String.utf8EncodeChar c).map UInt8.toNat = groups c.toNat := by
  have hc : c.toNat < 0xD800 ∨ 0xDFFF < c.toNat ∧ c.toNat < 0x110000 := c.valid
  simp only [String.utf8EncodeChar, groups]
  rw [show c.val.toNat = c.toNat from rfl]
  generalize c.toNat = n at *
  by_cases h1 : n ≤ 0x7F
  · simp [h1]; omega
  by_cases h2 : n ≤ 0x7FF
  · simp [h1, h2]; omega
  by_cases h3 : n ≤ 0xFFFF
  · simp [h1, h2, h3]; omega
  · simp [h1, h2, h3]; omega

theorem eq_encodeChar (bs : List UInt8) {n : Nat} (hn : n < 0xD800 ∨ 0xDFFF < n ∧ n < 0x110000)
    (h : bs.map UInt8.toNat = groups n) : bs = String.utf8EncodeChar (Char.ofNat n) := by
  have hc : (Char.ofNat n).toNat = n := by
    rw [Char.ofNat, dif_pos (show n.isValidChar from hn)]
    rfl
  have henc := map_toNat_encodeChar (Char.ofNat n)
  rw [hc, ← h] at henc
  exact (List.map_inj_right (fun _ _ hab => UInt8.toNat_inj.mp hab)).mp henc.symm

theorem decodeFrom_start {pos : Nat} {b : UInt8} {p : Pending} {rest : List UInt8} (h : start b = .more p) :
    decodeFrom pos none (b :: rest) = decodeFrom (pos + 1) (some p) rest := by
  rw [decodeFrom, h]

theorem decodeFrom_push_more {pos : Nat} {p q : Pending} {b : UInt8} {rest : List UInt8} (h : p.push b = .more q) :
    decodeFrom pos (some p) (b :: rest) = decodeFrom (pos + 1) (some q) rest := by
  rw [decodeFrom, h]

theorem decodeFrom_push_char {pos : Nat} {p : Pending} {b : UInt8} {c : Char} {rest : List UInt8}
    (h : p.push b = .char c) :
    decodeFrom pos (some p) (b :: rest) = (c :: ·) <$> decodeFrom (pos + 1) none rest := by
  rw [decodeFrom, h]

/-- The octets of a character read as that character, whatever follows them. -/
theorem decodeFrom_encodeChar (pos : Nat) (c : Char) (rest : List UInt8) :
    decodeFrom pos none (String.utf8EncodeChar c ++ rest) =
      (c :: ·) <$> decodeFrom (pos + (String.utf8EncodeChar c).length) none rest := by
  have hc : c.toNat < 0xD800 ∨ 0xDFFF < c.toNat ∧ c.toNat < 0x110000 := c.valid
  have hofNat : Char.ofNat c.toNat = c := Char.ofNat_toNat c
  have hgroups := map_toNat_encodeChar c
  generalize String.utf8EncodeChar c = bs at hgroups
  rw [groups] at hgroups
  split at hgroups
  · obtain ⟨a, rfl, ha⟩ := List.map_eq_singleton_iff.mp hgroups
    simp [decodeFrom, start_one (b := a) (by omega), ha, hofNat]
  split at hgroups
  · obtain ⟨a, _, rfl, ha, b, _, rfl, hb, hnil⟩ := by simpa only [List.map_eq_cons_iff] using hgroups
    obtain rfl := List.map_eq_nil_iff.mp hnil
    have hvalue : (a.toNat - 0xC0) * 64 + (b.toNat - 0x80) = c.toNat := by omega
    rw [List.cons_append, decodeFrom_start (start_two (by omega) (by omega)), List.cons_append,
      decodeFrom_push_char (push_char (by simp only; omega) (by simp only; omega) (by simp only; omega))]
    simp only [hvalue, hofNat, List.length_cons, List.length_nil, List.nil_append]
  split at hgroups
  · obtain ⟨a, _, rfl, ha, b, _, rfl, hb, d, _, rfl, hd, hnil⟩ := by
      simpa only [List.map_eq_cons_iff] using hgroups
    obtain rfl := List.map_eq_nil_iff.mp hnil
    have hvalue : ((a.toNat - 0xE0) * 64 + (b.toNat - 0x80)) * 64 + (d.toNat - 0x80) = c.toNat := by omega
    rw [List.cons_append, decodeFrom_start (start_three (by omega) (by omega)), List.cons_append,
      decodeFrom_push_more (push_more (by simp only; split <;> omega) (by simp only; split <;> omega)
        (by simp only; omega)), List.cons_append,
      decodeFrom_push_char (push_char (by simp only; omega) (by simp only; omega) (by simp only; omega))]
    simp only [hvalue, hofNat, List.length_cons, List.length_nil, List.nil_append]
  · obtain ⟨a, _, rfl, ha, b, _, rfl, hb, d, _, rfl, hd, e, _, rfl, he, hnil⟩ := by
      simpa only [List.map_eq_cons_iff] using hgroups
    obtain rfl := List.map_eq_nil_iff.mp hnil
    have hvalue : (((a.toNat - 0xF0) * 64 + (b.toNat - 0x80)) * 64 + (d.toNat - 0x80)) * 64 + (e.toNat - 0x80) =
        c.toNat := by omega
    rw [List.cons_append, decodeFrom_start (start_four (by omega) (by omega)), List.cons_append,
      decodeFrom_push_more (push_more (by simp only; split <;> omega) (by simp only; split <;> omega)
        (by simp only; omega)), List.cons_append,
      decodeFrom_push_more (push_more (by simp only; omega) (by simp only; omega) (by simp only; omega)),
      List.cons_append,
      decodeFrom_push_char (push_char (by simp only; omega) (by simp only; omega) (by simp only; omega))]
    simp only [hvalue, hofNat, List.length_cons, List.length_nil, List.nil_append]

/-- What comes of the last octet of a character under way. -/
theorem decodeFrom_last {pos : Nat} {p : Pending} {bs : List UInt8} {cs : List Char} (hn : p.need ≤ 1)
    (h : decodeFrom pos (some p) bs = .ok cs) :
    ∃ b rest cs', bs = b :: rest ∧ p.least ≤ b.toNat ∧ b.toNat ≤ p.greatest ∧
      cs = Char.ofNat (p.value * 64 + (b.toNat - 0x80)) :: cs' ∧ decodeFrom (pos + 1) none rest = .ok cs' := by
  cases bs with
  | nil => simp [decodeFrom] at h
  | cons b rest =>
      by_cases hb : p.least ≤ b.toNat ∧ b.toNat ≤ p.greatest
      · rw [decodeFrom, push_char hb.1 hb.2 hn] at h
        obtain ⟨cs', hrest, hcs⟩ := map_eq_ok.mp h
        exact ⟨b, rest, cs', rfl, hb.1, hb.2, hcs.symm, hrest⟩
      · simp [decodeFrom, Pending.push, hb] at h

/-- What comes of a middle octet of a character under way. -/
theorem decodeFrom_middle {pos : Nat} {p : Pending} {bs : List UInt8} {cs : List Char} (hn : 1 < p.need)
    (h : decodeFrom pos (some p) bs = .ok cs) :
    ∃ b rest, bs = b :: rest ∧ p.least ≤ b.toNat ∧ b.toNat ≤ p.greatest ∧
      decodeFrom (pos + 1) (some ⟨p.lead, p.seen + 1, p.need - 1, 0x80, 0xBF, p.value * 64 + (b.toNat - 0x80)⟩) rest =
        .ok cs := by
  cases bs with
  | nil => simp [decodeFrom] at h
  | cons b rest =>
      by_cases hb : p.least ≤ b.toNat ∧ b.toNat ≤ p.greatest
      · rw [decodeFrom, push_more hb.1 hb.2 hn] at h
        exact ⟨b, rest, rfl, hb.1, hb.2, h⟩
      · simp [decodeFrom, Pending.push, hb] at h

/-- Octets that read well are those of their first character and others that read well. -/
theorem decodeFrom_cons {pos : Nat} {b : UInt8} {bs : List UInt8} {cs : List Char}
    (h : decodeFrom pos none (b :: bs) = .ok cs) :
    ∃ pos' c cs' rest, cs = c :: cs' ∧ b :: bs = String.utf8EncodeChar c ++ rest ∧
      decodeFrom pos' none rest = .ok cs' := by
  rw [decodeFrom] at h
  rcases (by omega : b.toNat < 0x80 ∨ (0xC2 ≤ b.toNat ∧ b.toNat < 0xE0) ∨ (0xE0 ≤ b.toNat ∧ b.toNat < 0xF0) ∨
    (0xF0 ≤ b.toNat ∧ b.toNat < 0xF5) ∨ (0x80 ≤ b.toNat ∧ b.toNat < 0xC2 ∨ 0xF5 ≤ b.toNat)) with
    hb | ⟨hl, hg⟩ | ⟨hl, hg⟩ | ⟨hl, hg⟩ | hb
  · rw [start_one hb] at h
    obtain ⟨cs', hrest, hcs⟩ := map_eq_ok.mp h
    refine ⟨_, _, cs', bs, hcs.symm, ?_, hrest⟩
    rw [← eq_encodeChar [b] (by omega) (by rw [groups, if_pos (by omega)]; rfl)]
    rfl
  · rw [start_two hl hg] at h
    obtain ⟨c, rest, cs', rfl, hc1, hc2, hcs, hrest⟩ := decodeFrom_last (by simp only; omega) h
    simp only at hc1 hc2 hcs
    refine ⟨_, _, cs', rest, hcs, ?_, hrest⟩
    rw [← eq_encodeChar [b, c] (by omega)]
    · rfl
    · rw [groups, if_neg (by omega), if_pos (by omega)]
      simp; omega
  · rw [start_three hl hg] at h
    obtain ⟨c, rest, rfl, hc1, hc2, h⟩ := decodeFrom_middle (by simp only; omega) h
    obtain ⟨d, rest, cs', rfl, hd1, hd2, hcs, hrest⟩ := decodeFrom_last (by simp only; omega) h
    simp only at hc1 hc2 hd1 hd2 hcs
    refine ⟨_, _, cs', rest, hcs, ?_, hrest⟩
    have hrange : 0x80 ≤ c.toNat ∧ c.toNat ≤ 0xBF ∧ (b.toNat = 0xE0 → 0xA0 ≤ c.toNat) ∧ (b.toNat = 0xED → c.toNat ≤ 0x9F) := by
      split at hc1 <;> split at hc2 <;> omega
    rw [← eq_encodeChar [b, c, d] (by omega)]
    · rfl
    · rw [groups, if_neg (by omega), if_neg (by omega), if_pos (by omega)]
      simp; omega
  · rw [start_four hl hg] at h
    obtain ⟨c, rest, rfl, hc1, hc2, h⟩ := decodeFrom_middle (by simp only; omega) h
    obtain ⟨d, rest, rfl, hd1, hd2, h⟩ := decodeFrom_middle (by simp only; omega) h
    obtain ⟨e, rest, cs', rfl, he1, he2, hcs, hrest⟩ := decodeFrom_last (by simp only; omega) h
    simp only at hc1 hc2 hd1 hd2 he1 he2 hcs
    refine ⟨_, _, cs', rest, hcs, ?_, hrest⟩
    have hrange : 0x80 ≤ c.toNat ∧ c.toNat ≤ 0xBF ∧ (b.toNat = 0xF0 → 0x90 ≤ c.toNat) ∧ (b.toNat = 0xF4 → c.toNat ≤ 0x8F) := by
      split at hc1 <;> split at hc2 <;> omega
    rw [← eq_encodeChar [b, c, d, e] (by omega)]
    · rfl
    · rw [groups, if_neg (by omega), if_neg (by omega), if_neg (by omega)]
      simp; omega
  · rw [start_bad hb] at h
    simp at h

theorem decodeFrom_eq_ok {pos : Nat} {bs : List UInt8} {cs : List Char} :
    decodeFrom pos none bs = .ok cs ↔ bs = cs.flatMap String.utf8EncodeChar := by
  constructor
  · intro h
    induction cs generalizing pos bs with
    | nil =>
        cases bs with
        | nil => rfl
        | cons b bs =>
            obtain ⟨_, _, _, _, hcs, _, _⟩ := decodeFrom_cons h
            simp at hcs
    | cons c cs ih =>
        cases bs with
        | nil => simp [decodeFrom] at h
        | cons b bs =>
            obtain ⟨_, c', cs', rest, hcs, hbs, hrest⟩ := decodeFrom_cons h
            obtain ⟨rfl, rfl⟩ := List.cons.inj hcs
            rw [hbs, ih hrest, List.flatMap_cons]
  · rintro rfl
    induction cs generalizing pos with
    | nil => rfl
    | cons c cs ih => rw [List.flatMap_cons, decodeFrom_encodeChar, ih, map_ok]

/-- Octets read as a text exactly if they are its octets. -/
theorem decode_eq_ok {bs : List UInt8} {s : String} : decode bs = .ok s ↔ bs = encode s := by
  rw [decode, map_eq_ok]
  constructor
  · rintro ⟨cs, hcs, rfl⟩
    rw [encode, String.toList_ofList, decodeFrom_eq_ok.mp hcs]
  · intro h
    exact ⟨s.toList, decodeFrom_eq_ok.mpr h, String.ofList_toList⟩

@[simp] theorem decode_encode (s : String) : decode (encode s) = .ok s := decode_eq_ok.mpr rfl

theorem encode_injective {s t : String} (h : encode s = encode t) : s = t := by
  have hs := decode_encode s
  rw [h, decode_encode] at hs
  exact (Except.ok.inj hs).symm

/-- Octets of ASCII stand for the characters of the same code. -/
theorem decodeLossy_ascii {bs : List UInt8} (h : ∀ b ∈ bs, b.toNat < 0x80) :
    decodeLossy bs = String.ofList (bs.map fun b => Char.ofNat b.toNat) := by
  rw [decodeLossy]
  refine congrArg String.ofList ?_
  induction bs with
  | nil => rfl
  | cons b bs ih =>
      obtain ⟨hb, hbs⟩ := List.forall_mem_cons.mp h
      simp only [decodeLossyFrom, start_one hb, List.map_cons, ih hbs]

end DaemonClient.Utf8
