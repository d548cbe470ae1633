import DaemonClient.Proofs.JsonScalars

/-! The text of a finite float is read as a float, whatever number follows from its digits (`readScalar_text`). The
shortest digits of a number other than zero have no zero in front, so wherever the point stands, the text is an integer
part with a fraction or an exponent after it. -/

namespace DaemonClient

namespace Binary64

/-! ### Shortest digits -/

theorem trimZeros_cons {c : Char} (hc : c ≠ '0') (ds : List Char) :
    ∃ ds', trimZeros (c :: ds) = c :: ds' ∧ ∀ d ∈ ds', d ∈ ds := by
  have hlast : ∀ d ∈ [c].head?, (d == '0') = false := by
    intro d hd
    obtain rfl : c = d := Option.some.inj hd
    exact beq_false_of_ne hc
  obtain ⟨-, hdrop⟩ := span_append ds.reverse hlast
  refine ⟨(ds.reverse.dropWhile (· == '0')).reverse, ?_, fun d hd => ?_⟩
  · rw [trimZeros, List.reverse_cons, hdrop, List.reverse_append, List.reverse_singleton, List.singleton_append]
  · exact List.mem_reverse.mp ((List.dropWhile_sublist _).mem (List.mem_reverse.mp hd))

theorem significand_pos {x : Binary64} (h : x.isZero = false) : 0 < x.significand := by
  rw [significand]
  by_cases hexponent : x.exponentField = 0
  · rw [if_pos hexponent]
    simpa [isZero, hexponent, Nat.pos_iff_ne_zero] using h
  · rw [if_neg hexponent]
    exact Nat.add_pos_left (by decide) _

theorem least_pos {x : Binary64} (h : x.isZero = false) : 0 < x.interval.least := by
  have hpos := significand_pos h
  simp only [interval]
  split <;> omega

/-- Of a grid only what is above zero is in an interval that begins above zero. -/
theorem Interval.pos_of_holds {i : Interval} (hi : 0 < i.least) {c stepNum stepDen unitNum unitDen : Nat}
    (hstep : 0 < stepDen) (hunit : 0 < unitNum) (h : i.holds c stepNum stepDen unitNum unitDen = true) : 0 < c := by
  apply Nat.pos_of_ne_zero
  rintro rfl
  have hleast : 0 < i.least * unitNum * stepDen := Nat.mul_pos (Nat.mul_pos hi hunit) hstep
  simp only [Interval.holds, Nat.zero_mul] at h
  split at h
  · simp at h
    omega
  · simp at h

/-- Digits as a layout takes them: there is one, and if the first is a zero, it is alone and before the point. -/
def Digits.IsShort (d : Digits) : Prop :=
  ∃ c ds, d.digits = c :: ds ∧ (∀ x ∈ c :: ds, isAsciiDigit x = true) ∧ (c = '0' → ds = [] ∧ d.point = 1)

theorem isShort_zero : Digits.IsShort ⟨['0'], 1⟩ :=
  ⟨'0', [], rfl, List.forall_mem_singleton.mpr rfl, fun _ => ⟨rfl, rfl⟩⟩

theorem isShort_trimZeros {c : Nat} (hc : 0 < c) (point : Int) :
    Digits.IsShort ⟨trimZeros (decimalDigits c), point⟩ := by
  obtain ⟨d, ds, hds, hzero⟩ := decimalDigits_eq_cons c
  have hne : d ≠ '0' := fun hd => hc.ne' (hzero hd).1
  obtain ⟨ds', htrim, hsub⟩ := trimZeros_cons hne ds
  refine ⟨d, ds', by rw [hds, htrim], fun x hx => ?_, fun hd => absurd hd hne⟩
  apply isAsciiDigit_of_mem_decimalDigits (n := c)
  rw [hds]
  exact (List.mem_cons.mp hx).elim (fun h => h ▸ List.mem_cons_self) fun h => List.mem_cons_of_mem _ (hsub x h)

theorem isShort_shortest {x : Binary64} (h : x.isZero = false) : x.shortest.IsShort := by
  unfold shortest
  extract_lets i unit unitNum unitDen point hit
  cases hhit : hit with
  | none => exact isShort_zero
  | some found =>
      obtain ⟨c, step⟩ := found
      obtain ⟨k, -, hk⟩ := List.exists_of_findSome?_eq_some hhit
      obtain ⟨c', hneighbour, heq⟩ := Option.map_eq_some_iff.mp hk
      obtain rfl : c' = c := (Prod.mk.inj heq).1
      have hholds := List.find?_some hneighbour
      apply isShort_trimZeros
      exact Interval.pos_of_holds (least_pos h) (Nat.pow_pos (by decide)) (Nat.pow_pos (by decide)) hholds

end Binary64

namespace Json

open Binary64

/-! ### Numbers with a fraction or an exponent -/

theorem readDigits_append {ds rest : List Char} (hne : ds ≠ []) (hds : ∀ d ∈ ds, isAsciiDigit d = true)
    (hrest : ∀ c ∈ rest.head?, isAsciiDigit c = false) : readDigits (ds ++ rest) = some (ds, rest) := by
  obtain ⟨htake, hdrop⟩ := takeWhile_decimalDigits hds hrest
  rw [readDigits, htake, hdrop]
  exact if_neg (by simpa using hne)

theorem readMagnitude_float {cs after after' rest whole : List Char} {fraction : Option (List Char)}
    {exponent : Option Int} (hwhole : readWhole cs = some (whole, after))
    (hfraction : readFraction after = some (fraction, after')) (hexponent : readExponent after' = some (exponent, rest))
    (hfloat : (fraction.isSome || exponent.isSome) = true) (hlength : whole.length ≤ digitLimit)
    (longFloats negative : Bool) :
    readMagnitude longFloats negative cs =
      some (float (decimalFraction negative whole (fraction.getD []) (exponent.getD 0)), rest) := by
  have hlong : (decide (digitLimit < whole.length) && !(true && longFloats)) = false := by
    rw [decide_eq_false (Nat.not_lt.mpr hlength), Bool.false_and]
  rw [readMagnitude, hwhole]
  simp only [Option.bind_eq_bind, Option.bind_some, hfraction, hexponent, hfloat, hlong]
  rfl

theorem not_digit_head {c : Char} (hc : isAsciiDigit c = false) (cs : List Char) :
    ∀ d ∈ (c :: cs).head?, isAsciiDigit d = false := by
  intro d hd
  rw [← Option.some.inj hd]
  exact hc

/-- A whole part with a fraction is read as a float. -/
theorem readMagnitude_point {whole fraction rest : List Char} (hwhole : IsWhole whole)
    (hlength : whole.length ≤ digitLimit) (hne : fraction ≠ []) (hfraction : ∀ d ∈ fraction, isAsciiDigit d = true)
    (hrest : Delimits rest) (longFloats negative : Bool) :
    readMagnitude longFloats negative (whole ++ '.' :: (fraction ++ rest)) =
      some (float (decimalFraction negative whole fraction 0), rest) := by
  have hdigits := readDigits_append hne hfraction fun c hc => (hrest c hc).1
  have hread : readFraction ('.' :: (fraction ++ rest)) = some (some fraction, rest) := by
    rw [readFraction, hdigits]
    rfl
  exact readMagnitude_float (readWhole_append hwhole (not_digit_head rfl _)) hread (readExponent_none hrest) rfl hlength
    longFloats negative

/-- What may stand between an integer part and an exponent: nothing, or a point and digits. -/
def fractionText (ds : List Char) : List Char :=
  match ds with
  | [] => []
  | ds => '.' :: ds

theorem readFraction_fractionText {ds : List Char} (hds : ∀ d ∈ ds, isAsciiDigit d = true) (cs : List Char) :
    ∃ fraction, readFraction (fractionText ds ++ 'e' :: cs) = some (fraction, 'e' :: cs) ∧ fraction.getD [] = ds := by
  cases ds with
  | nil => exact ⟨none, rfl, rfl⟩
  | cons d ds =>
      have hdigits := readDigits_append (List.cons_ne_nil d ds) hds (not_digit_head (c := 'e') rfl cs)
      refine ⟨some (d :: ds), ?_, rfl⟩
      rw [fractionText, List.cons_append, readFraction, hdigits]
      · rfl
      · exact List.cons_ne_nil d ds

theorem readExponent_sign {sign : Char} (hsign : sign = '-' ∨ sign = '+') {es rest : List Char} (hne : es ≠ [])
    (hes : ∀ d ∈ es, isAsciiDigit d = true) (hrest : Delimits rest) :
    readExponent ('e' :: sign :: (es ++ rest)) = some (some (signed (sign == '-') (asciiValue es)), rest) := by
  have hdigits := readDigits_append hne hes fun c hc => (hrest c hc).1
  rcases hsign with rfl | rfl <;>
  · rw [readExponent, if_pos (by decide)]
    simp only [splitSign, hdigits]
    rfl

/-- One digit with an exponent, and a fraction between them or none, is read as a float. -/
theorem readMagnitude_exponent {c sign : Char} (hc : isAsciiDigit c = true) {ds es rest : List Char}
    (hds : ∀ d ∈ ds, isAsciiDigit d = true) (hsign : sign = '-' ∨ sign = '+') (hne : es ≠ [])
    (hes : ∀ d ∈ es, isAsciiDigit d = true) (hrest : Delimits rest) (longFloats negative : Bool) :
    readMagnitude longFloats negative (c :: (fractionText ds ++ 'e' :: sign :: (es ++ rest))) =
      some (float (decimalFraction negative [c] ds (signed (sign == '-') (asciiValue es))), rest) := by
  have hwhole : IsWhole [c] := ⟨c, [], rfl, by simpa using hc, fun _ => rfl⟩
  obtain ⟨fraction, hfraction, hget⟩ := readFraction_fractionText hds (sign :: (es ++ rest))
  have hhead : ∀ d ∈ (fractionText ds ++ 'e' :: sign :: (es ++ rest)).head?, isAsciiDigit d = false := by
    cases ds <;> exact not_digit_head rfl _
  have hread := readMagnitude_float (readWhole_append hwhole hhead) hfraction (readExponent_sign hsign hne hes hrest)
    (Bool.or_true _) (show 1 ≤ digitLimit by decide) longFloats negative
  rw [hget] at hread
  exact hread

/-! ### Texts of floats -/

/-- A text that is read as one float, whatever follows it and whatever the reader admits. -/
def ReadsFloat (negative : Bool) (cs : List Char) (x : Binary64) : Prop :=
  ∀ (longFloats : Bool) {rest : List Char}, Delimits rest →
    readMagnitude longFloats negative (cs ++ rest) = some (float x, rest)

theorem digits_zeros (n : Nat) : ∀ d ∈ List.replicate n '0', isAsciiDigit d = true := by
  intro d hd
  rw [List.eq_of_mem_replicate hd]
  rfl

theorem digits_append {ds es : List Char} (hds : ∀ d ∈ ds, isAsciiDigit d = true)
    (hes : ∀ d ∈ es, isAsciiDigit d = true) : ∀ d ∈ ds ++ es, isAsciiDigit d = true :=
  fun d hd => (List.mem_append.mp hd).elim (hds d) (hes d)

/-- What a number is written as: an integer part and a fraction, or one digit and an exponent with or without a fraction
between them. -/
inductive FloatText : List Char → Prop
  | point (whole fraction : List Char) (isWhole : IsWhole whole) (short : whole.length ≤ digitLimit)
      (ne : fraction ≠ []) (digits : ∀ d ∈ fraction, isAsciiDigit d = true) : FloatText (whole ++ '.' :: fraction)
  | exponent {c sign : Char} (ds es : List Char) (digit : isAsciiDigit c = true)
      (digits : ∀ d ∈ ds, isAsciiDigit d = true) (isSign : sign = '-' ∨ sign = '+') (ne : es ≠ [])
      (power : ∀ d ∈ es, isAsciiDigit d = true) : FloatText (c :: (fractionText ds ++ 'e' :: sign :: es))

theorem FloatText.eq_cons {cs : List Char} (h : FloatText cs) : ∃ c rest, cs = c :: rest ∧ isAsciiDigit c = true := by
  cases h with
  | point whole fraction isWhole =>
      obtain ⟨c, ds, rfl, hdigit, -⟩ := isWhole
      exact ⟨c, _, rfl, hdigit c List.mem_cons_self⟩
  | exponent ds es digit => exact ⟨_, _, rfl, digit⟩

theorem FloatText.readsFloat {cs : List Char} (h : FloatText cs) (negative : Bool) : ∃ x, ReadsFloat negative cs x := by
  cases h with
  | point whole fraction isWhole short ne digits =>
      refine ⟨decimalFraction negative whole fraction 0, fun longFloats rest hrest => ?_⟩
      rw [List.append_assoc, List.cons_append]
      exact readMagnitude_point isWhole short ne digits hrest longFloats negative
  | @exponent c sign ds es digit digits isSign ne power =>
      refine ⟨decimalFraction negative [c] ds (signed (sign == '-') (asciiValue es)), fun longFloats rest hrest => ?_⟩
      rw [List.cons_append, List.append_assoc, List.cons_append, List.cons_append]
      exact readMagnitude_exponent digit digits isSign ne power hrest longFloats negative

/-- Zeros that fill up to the point leave a whole part. -/
theorem floatText_filled {c : Char} {ds : List Char} (hdigit : ∀ x ∈ c :: ds, isAsciiDigit x = true) {zeros : Nat}
    (hzero : c = '0' → ds = [] ∧ zeros = 0) (hlength : ds.length + 1 + zeros ≤ 16) :
    FloatText (c :: ds ++ List.replicate zeros '0' ++ ['.', '0']) := by
  have hdigits : ∀ x ∈ c :: (ds ++ List.replicate zeros '0'), isAsciiDigit x = true :=
    digits_append hdigit (digits_zeros zeros)
  have hwhole : IsWhole (c :: ds ++ List.replicate zeros '0') := by
    refine ⟨c, _, rfl, hdigits, fun hc => ?_⟩
    obtain ⟨rfl, rfl⟩ := hzero hc
    rfl
  have hlen : (c :: ds ++ List.replicate zeros '0').length ≤ digitLimit := by
    have hlimit : 16 ≤ digitLimit := by decide
    simp only [List.length_append, List.length_cons, List.length_replicate]
    omega
  exact .point _ ['0'] hwhole hlen (List.cons_ne_nil _ _) (digits_zeros 1)

/-- A point among the digits leaves a whole part and a fraction. -/
theorem floatText_split {c : Char} {ds : List Char} (hdigit : ∀ x ∈ c :: ds, isAsciiDigit x = true)
    (hzero : c = '0' → ds = []) {k : Nat} (hk : k < ds.length) (hlength : k < 16) :
    FloatText ((c :: ds).take (k + 1) ++ '.' :: (c :: ds).drop (k + 1)) := by
  rw [List.take_succ_cons, List.drop_succ_cons]
  refine .point _ _ ⟨c, ds.take k, rfl, fun x hx => ?_, fun hc => ?_⟩ ?_ ?_ fun x hx => ?_
  · exact hdigit x (List.cons_subset_cons c (List.take_subset k ds) hx)
  · rw [hzero hc, List.take_nil]
  · have hlimit : 16 ≤ digitLimit := by decide
    rw [List.length_cons, List.length_take]
    omega
  · rw [ne_eq, List.drop_eq_nil_iff]
    omega
  · exact hdigit x (List.mem_cons_of_mem _ (List.drop_subset k ds hx))

/-- A layout writes digits as the text of a float. -/
theorem floatText_write {d : Digits} (h : d.IsShort) : FloatText (layout.write d) := by
  obtain ⟨digits, point⟩ := d
  obtain ⟨c, ds, rfl, hdigit, hzero⟩ := h
  obtain ⟨hc, hds⟩ := List.forall_mem_cons.mp hdigit
  dsimp only at hzero
  have hlength : ((c :: ds).length : Int) = ds.length + 1 := rfl
  rw [Layout.write]
  extract_lets e es tail
  dsimp only
  split
  · rename_i hrange
    have hgreatest : point ≤ 16 := hrange.2
    by_cases hpoint : point ≤ 0
    · rw [if_pos hpoint]
      exact .point ['0'] _ ⟨'0', [], rfl, digits_zeros 1, fun _ => rfl⟩ (show 1 ≤ digitLimit by decide) (by simp)
        (digits_append (digits_zeros _) hdigit)
    rw [if_neg hpoint]
    by_cases hwhole : ((c :: ds).length : Int) ≤ point
    · rw [if_pos hwhole]
      apply floatText_filled hdigit
      · intro hc
        obtain ⟨rfl, rfl⟩ := hzero hc
        exact ⟨rfl, rfl⟩
      · omega
    · rw [if_neg hwhole]
      obtain ⟨k, hk⟩ : ∃ k, point.toNat = k + 1 := ⟨point.toNat - 1, by omega⟩
      rw [hk]
      exact floatText_split hdigit (fun hc => (hzero hc).1) (by omega) (by omega)
  · have htail : tail = fractionText ds := by
      cases ds <;> rfl
    rw [htail]
    refine .exponent ds (List.replicate (2 - es.length) '0' ++ es) hc hds ?_ ?_ ?_
    · split <;> simp
    · obtain ⟨c', es', hes, -⟩ := decimalDigits_eq_cons e.natAbs
      simp [es, hes]
    · exact digits_append (digits_zeros _) fun d => isAsciiDigit_of_mem_decimalDigits

/-- The magnitude of a finite float is written as the text of a float. -/
theorem exists_floatText {x : Binary64} (hx : x.isFinite = true) :
    ∃ cs, x.text = (if x.negative then ['-'] else []) ++ cs ∧ FloatText cs := by
  have hfinite : x.isNaN = false ∧ x.isInfinite = false := by
    rw [isFinite, bne_iff_ne] at hx
    simp [isNaN, isInfinite, hx]
  rw [Binary64.text, Layout.text]
  simp only [hfinite.1, hfinite.2, Bool.false_eq_true, if_false]
  cases hzero : x.isZero with
  | true => exact ⟨_, rfl, floatText_write isShort_zero⟩
  | false => exact ⟨_, rfl, floatText_write (isShort_shortest hzero)⟩

/-- **The text of a finite float is read as a float.** -/
theorem readScalar_text {x : Binary64} (hx : x.isFinite = true) :
    ∃ y, ∀ (longFloats : Bool) {rest : List Char}, Delimits rest →
      readScalar longFloats (x.text ++ rest) = some (float y, rest) := by
  obtain ⟨cs, htext, hcs⟩ := exists_floatText hx
  obtain ⟨c, ds, rfl, hc⟩ := hcs.eq_cons
  obtain ⟨y, hy⟩ := hcs.readsFloat x.negative
  refine ⟨y, fun longFloats rest hrest => ?_⟩
  rw [htext, List.append_assoc, List.cons_append, readScalar_signed longFloats _ hc]
  exact hy longFloats hrest

end Json

namespace Binary64

/-- The number that the text of a finite float is read as. -/
def reread (x : Binary64) : Binary64 :=
  match Json.readScalar true x.text with
  | some (.float y, _) => y
  | _ => x

end Binary64

namespace Json

theorem readScalar_reread {x : Binary64} (hx : x.isFinite = true) (longFloats : Bool) {rest : List Char}
    (h : Delimits rest) : readScalar longFloats (x.text ++ rest) = some (float x.reread, rest) := by
  obtain ⟨y, hy⟩ := readScalar_text hx
  have hreread : x.reread = y := by
    have hwhole := hy true delimits_nil
    rw [List.append_nil] at hwhole
    rw [Binary64.reread, hwhole]
  rw [hreread, hy longFloats h]

theorem floatText_eq_cons {x : Binary64} (hx : x.isFinite = true) : ∃ c cs, x.text = c :: cs ∧ IsNumeral c := by
  obtain ⟨cs, htext, hcs⟩ := exists_floatText hx
  obtain ⟨c, ds, rfl, hc⟩ := hcs.eq_cons
  rw [htext]
  cases x.negative
  · exact ⟨c, ds, rfl, .inl hc⟩
  · exact ⟨'-', c :: ds, rfl, .inr rfl⟩

end Json

end DaemonClient
