import DaemonClient.Number.Reading

/-! Texts that are read as an integer (`readInteger_eq_some`): blanks, at most one sign, decimal digits of any script
with single underscores between them, and blanks. Nothing else is read, and of these only runs of more digits than the
limit are not. -/

namespace DaemonClient

/-! ### Trimming -/

section
variable {drop : Char → Bool}

/-- What is trimmed off a text stands at its ends. -/
theorem exists_trimBoth (drop : Char → Bool) (cs : List Char) :
    ∃ before after, before.all drop = true ∧ after.all drop = true ∧ cs = before ++ (trimBoth drop cs ++ after) := by
  refine ⟨cs.takeWhile drop, ((cs.dropWhile drop).reverse.takeWhile drop).reverse, List.all_takeWhile, ?_, ?_⟩
  · rw [List.all_reverse]
    exact List.all_takeWhile
  · rw [trimBoth, ← List.reverse_append, List.takeWhile_append_dropWhile, List.reverse_reverse,
      List.takeWhile_append_dropWhile]

/-- Trimming stops at the first character of either end that is not dropped. -/
theorem trimBoth_append {before mid after : List Char} (hbefore : before.all drop = true)
    (hafter : after.all drop = true) {c d : Char} {tail front : List Char} (hhead : mid = c :: tail)
    (hc : drop c = false) (hlast : mid = front ++ [d]) (hd : drop d = false) :
    trimBoth drop (before ++ (mid ++ after)) = mid := by
  have hfront : (before ++ (mid ++ after)).dropWhile drop = mid ++ after := by
    rw [List.dropWhile_append_of_pos (List.all_eq_true.mp hbefore), hhead, List.cons_append,
      List.dropWhile_cons_of_neg (by simp [hc])]
  have hback : (mid ++ after).reverse.dropWhile drop = mid.reverse := by
    rw [List.reverse_append, List.dropWhile_append_of_pos, hlast, List.reverse_append, List.reverse_singleton,
      List.singleton_append, List.dropWhile_cons_of_neg (by simp [hd])]
    intro a ha
    exact List.all_eq_true.mp hafter a (List.mem_reverse.mp ha)
  rw [trimBoth, hfront, hback, List.reverse_reverse]

end

/-! ### Runs of digits -/

/-- Decimal digits with at most one underscore between any two, and what each of them counts. -/
inductive DigitRun : List Char → List Nat → Prop
  | last {c : Char} {d : Nat} (h : Text.digitValue? c = some d) : DigitRun [c] [d]
  | next {c : Char} {d : Nat} {cs : List Char} {ds : List Nat} (h : Text.digitValue? c = some d)
      (rest : DigitRun cs ds) : DigitRun (c :: cs) (d :: ds)
  | spaced {c : Char} {d : Nat} {cs : List Char} {ds : List Nat} (h : Text.digitValue? c = some d)
      (rest : DigitRun cs ds) : DigitRun (c :: '_' :: cs) (d :: ds)

theorem ne_underscore_of_digit {c : Char} {d : Nat} (h : Text.digitValue? c = some d) : (c == '_') = false := by
  rw [beq_eq_false_iff_ne]
  rintro rfl
  have hnone : Text.digitValue? '_' = none := by decide
  rw [hnone] at h
  cases h

/-- What may follow a digit: nothing, more digits, or an underscore and more digits. -/
inductive RunTail : List Char → List Nat → Prop
  | done : RunTail [] []
  | more {cs : List Char} {ds : List Nat} (h : DigitRun cs ds) : RunTail cs ds
  | spaced {cs : List Char} {ds : List Nat} (h : DigitRun cs ds) : RunTail ('_' :: cs) ds

theorem DigitRun.of_tail {c : Char} {d : Nat} (h : Text.digitValue? c = some d) {cs : List Char} {ds : List Nat}
    (htail : RunTail cs ds) : DigitRun (c :: cs) (d :: ds) := by
  cases htail with
  | done => exact .last h
  | more hrest => exact .next h hrest
  | spaced hrest => exact .spaced h hrest

theorem underscored_cons {c : Char} {d : Nat} (h : Text.digitValue? c = some d) (after : Bool) (cs : List Char) :
    underscored Text.digitValue? after (c :: cs) = (d :: ·) <$> underscored Text.digitValue? true cs := by
  rw [underscored, ne_underscore_of_digit h, if_neg Bool.false_ne_true, h]

/-- A digit at the beginning of what is read, and what follows it. -/
theorem exists_digit_of_underscored {after : Bool} {c : Char} {cs : List Char} {ds : List Nat} (hc : (c == '_') = false)
    (h : underscored Text.digitValue? after (c :: cs) = some ds) :
    ∃ d rest, Text.digitValue? c = some d ∧ underscored Text.digitValue? true cs = some rest ∧ ds = d :: rest := by
  rw [underscored, hc, if_neg Bool.false_ne_true] at h
  cases hd : Text.digitValue? c with
  | none =>
      rw [hd] at h
      cases h
  | some d =>
      rw [hd] at h
      obtain ⟨rest, hrest, rfl⟩ := Option.map_eq_some_iff.mp h
      exact ⟨d, rest, rfl, hrest, rfl⟩

-- the two are one induction: after an underscore only a run may follow
theorem runTail_of_underscored {cs : List Char} {ds : List Nat} :
    (underscored Text.digitValue? true cs = some ds → RunTail cs ds) ∧
      (underscored Text.digitValue? false cs = some ds → DigitRun cs ds) := by
  induction cs generalizing ds with
  | nil =>
      constructor
      · intro h
        obtain rfl : [] = ds := Option.some.inj h
        exact .done
      · intro h
        cases h
  | cons c cs ih =>
      have hdigit {after : Bool} (hc : (c == '_') = false)
          (h : underscored Text.digitValue? after (c :: cs) = some ds) : DigitRun (c :: cs) ds := by
        obtain ⟨d, rest, hd, hrest, rfl⟩ := exists_digit_of_underscored hc h
        exact .of_tail hd (ih.1 hrest)
      by_cases hc : (c == '_') = true
      · obtain rfl : c = '_' := beq_iff_eq.mp hc
        constructor
        · intro h
          exact .spaced (ih.2 h)
        · intro h
          cases h
      · rw [Bool.not_eq_true] at hc
        exact ⟨fun h => .more (hdigit hc h), hdigit hc⟩

theorem underscored_of_run {cs : List Char} {ds : List Nat} (h : DigitRun cs ds) (after : Bool) :
    underscored Text.digitValue? after cs = some ds := by
  induction h generalizing after with
  | last hd =>
      rw [underscored_cons hd]
      rfl
  | next hd _ ih => rw [underscored_cons hd, ih true, Option.map_eq_map, Option.map_some]
  | spaced hd _ ih =>
      have hspace (cs : List Char) : underscored Text.digitValue? true ('_' :: cs) =
          underscored Text.digitValue? false cs := by
        rw [underscored]
        rfl
      rw [underscored_cons hd, hspace, ih false, Option.map_eq_map, Option.map_some]

/-- **The digits that are read are those of a run.** -/
theorem underscored_eq_some {cs : List Char} {ds : List Nat} :
    underscored Text.digitValue? false cs = some ds ↔ DigitRun cs ds :=
  ⟨runTail_of_underscored.2, fun h => underscored_of_run h false⟩

namespace DigitRun

theorem head {cs : List Char} {ds : List Nat} (h : DigitRun cs ds) :
    ∃ c tail d, cs = c :: tail ∧ Text.digitValue? c = some d := by
  cases h with
  | last hd => exact ⟨_, _, _, rfl, hd⟩
  | next hd => exact ⟨_, _, _, rfl, hd⟩
  | spaced hd => exact ⟨_, _, _, rfl, hd⟩

theorem getLast {cs : List Char} {ds : List Nat} (h : DigitRun cs ds) :
    ∃ front c d, cs = front ++ [c] ∧ Text.digitValue? c = some d := by
  induction h with
  | last hd => exact ⟨[], _, _, rfl, hd⟩
  | @next c _ _ _ _ _ ih =>
      obtain ⟨front, e, d, rfl, hd⟩ := ih
      exact ⟨c :: front, e, d, rfl, hd⟩
  | @spaced c _ _ _ _ _ ih =>
      obtain ⟨front, e, d, rfl, hd⟩ := ih
      exact ⟨c :: '_' :: front, e, d, rfl, hd⟩

end DigitRun

/-! ### Integers -/

/-- Blanks that may stand around an integer. -/
def isOuterBlank (c : Char) : Bool := Text.isBlank c || Text.isWideBlank c

theorem isOuterBlank_of_digit {c : Char} {d : Nat} (h : Text.digitValue? c = some d) : isOuterBlank c = false := by
  -- the scripts' digits and the blanks are both given by code points, and no script has a blank among its ten
  have hcodes : ∀ z ∈ Text.zeroDigits, ∀ k < 10, isOuterBlank (Char.ofNat (z + k)) = false := by decide
  obtain ⟨z, hz, rfl⟩ := Option.map_eq_some_iff.mp h
  have hrange := List.find?_some hz
  rw [Bool.and_eq_true, decide_eq_true_eq, decide_eq_true_eq] at hrange
  have hcode := hcodes z (List.mem_of_find?_eq_some hz) (c.toNat - z) (by omega)
  rwa [Nat.add_sub_cancel' hrange.1, Char.ofNat_toNat] at hcode

/-- A text of an integer: at most one sign and a run of digits, no more of them than the limit, with blanks around. -/
inductive IntegerText : List Char → Int → Prop
  | plain {before body after : List Char} {ds : List Nat} (hbefore : before.all isOuterBlank = true)
      (hafter : after.all isOuterBlank = true) (hrun : DigitRun body ds) (hlimit : ds.length ≤ digitLimit) :
      IntegerText (before ++ (body ++ after)) (digitsValue ds)
  | plus {before body after : List Char} {ds : List Nat} (hbefore : before.all isOuterBlank = true)
      (hafter : after.all isOuterBlank = true) (hrun : DigitRun body ds) (hlimit : ds.length ≤ digitLimit) :
      IntegerText (before ++ ('+' :: body ++ after)) (digitsValue ds)
  | minus {before body after : List Char} {ds : List Nat} (hbefore : before.all isOuterBlank = true)
      (hafter : after.all isOuterBlank = true) (hrun : DigitRun body ds) (hlimit : ds.length ≤ digitLimit) :
      IntegerText (before ++ ('-' :: body ++ after)) (-(digitsValue ds : Int))

theorem splitSign_cases (cs : List Char) :
    (∃ rest, cs = '-' :: rest ∧ splitSign cs = (true, rest)) ∨
      (∃ rest, cs = '+' :: rest ∧ splitSign cs = (false, rest)) ∨ splitSign cs = (false, cs) := by
  unfold splitSign
  split
  · exact .inl ⟨_, rfl, rfl⟩
  · exact .inr (.inl ⟨_, rfl, rfl⟩)
  · exact .inr (.inr rfl)

/-- A run begins with no sign. -/
theorem DigitRun.splitSign {cs : List Char} {ds : List Nat} (h : DigitRun cs ds) :
    DaemonClient.splitSign cs = (false, cs) := by
  obtain ⟨c, tail, d, rfl, hd⟩ := h.head
  rcases splitSign_cases (c :: tail) with ⟨rest, heq, -⟩ | ⟨rest, heq, -⟩ | hsame
  · obtain ⟨rfl, -⟩ := List.cons.inj heq
    have hnone : Text.digitValue? '-' = none := by decide
    rw [hnone] at hd
    cases hd
  · obtain ⟨rfl, -⟩ := List.cons.inj heq
    have hnone : Text.digitValue? '+' = none := by decide
    rw [hnone] at hd
    cases hd
  · exact hsame

/-- Reading an integer is trimming a text, splitting its sign and reading its digits. -/
theorem readInteger_of_trimmed {cs mid body : List Char} {negative : Bool} (htrim : trimBoth isOuterBlank cs = mid)
    (hsign : splitSign mid = (negative, body)) {ds : List Nat} (hrun : DigitRun body ds)
    (hlimit : ds.length ≤ digitLimit) : readInteger cs = some (signed negative (digitsValue ds)) := by
  have htrim' : trimBoth (fun c => readInteger.isBlankOrWide c) cs = mid := htrim
  rw [readInteger, htrim', hsign]
  simp only [underscored_eq_some.mpr hrun]
  exact if_neg (by omega)

/-- A sign before a run stays, and the run with it. -/
theorem trimBoth_signed {before body after : List Char} (hbefore : before.all isOuterBlank = true)
    (hafter : after.all isOuterBlank = true) {sign : Char} (hsign : isOuterBlank sign = false) {ds : List Nat}
    (hrun : DigitRun body ds) : trimBoth isOuterBlank (before ++ (sign :: body ++ after)) = sign :: body := by
  obtain ⟨front, c, d, hlast, hc⟩ := hrun.getLast
  have hmid : sign :: body = (sign :: front) ++ [c] := by rw [hlast, List.cons_append]
  exact trimBoth_append hbefore hafter rfl hsign hmid (isOuterBlank_of_digit hc)

theorem exists_run_of_readInteger {cs : List Char} {n : Int} (h : readInteger cs = some n) :
    ∃ negative body ds, splitSign (trimBoth isOuterBlank cs) = (negative, body) ∧ DigitRun body ds ∧
      ds.length ≤ digitLimit ∧ n = signed negative (digitsValue ds) := by
  have htrim : trimBoth (fun c => readInteger.isBlankOrWide c) cs = trimBoth isOuterBlank cs := rfl
  rw [readInteger, htrim] at h
  simp only at h
  split at h
  · rename_i ds hrun
    split at h
    · cases h
    · rename_i hlimit
      obtain rfl := Option.some.inj h
      exact ⟨_, _, ds, rfl, underscored_eq_some.mp hrun, by omega, rfl⟩
  · cases h

/-- **The integers that are read are those that a text of an integer tells.** -/
theorem readInteger_eq_some {cs : List Char} {n : Int} : readInteger cs = some n ↔ IntegerText cs n := by
  constructor
  · intro h
    obtain ⟨negative, body, ds, hsign, hrun, hlimit, rfl⟩ := exists_run_of_readInteger h
    obtain ⟨before, after, hbefore, hafter, hcs⟩ := exists_trimBoth isOuterBlank cs
    rw [hcs]
    rcases splitSign_cases (trimBoth isOuterBlank cs) with ⟨rest, hmid, hsplit⟩ | ⟨rest, hmid, hsplit⟩ | hsplit
    · obtain ⟨rfl, rfl⟩ := Prod.mk.inj (hsign.symm.trans hsplit)
      rw [hmid]
      exact .minus hbefore hafter hrun hlimit
    · obtain ⟨rfl, rfl⟩ := Prod.mk.inj (hsign.symm.trans hsplit)
      rw [hmid]
      exact .plus hbefore hafter hrun hlimit
    · obtain ⟨rfl, rfl⟩ := Prod.mk.inj (hsign.symm.trans hsplit)
      exact .plain hbefore hafter hrun hlimit
  · intro h
    cases h with
    | plain hbefore hafter hrun hlimit =>
        obtain ⟨c, tail, d, hhead, hc⟩ := hrun.head
        obtain ⟨front, e, k, hlast, he⟩ := hrun.getLast
        have htrim := trimBoth_append hbefore hafter hhead (isOuterBlank_of_digit hc) hlast (isOuterBlank_of_digit he)
        exact readInteger_of_trimmed htrim hrun.splitSign hrun hlimit
    | plus hbefore hafter hrun hlimit =>
        exact readInteger_of_trimmed (trimBoth_signed hbefore hafter (by decide) hrun) rfl hrun hlimit
    | minus hbefore hafter hrun hlimit =>
        exact readInteger_of_trimmed (trimBoth_signed hbefore hafter (by decide) hrun) rfl hrun hlimit

end DaemonClient
