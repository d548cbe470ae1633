import DaemonClient.Proofs.FloatText
import DaemonClient.Proofs.Outcome

/-! Reading JSON text takes back what writing put down, but for its floats, which are read as their texts say
(`parse_write_reread`): every document with integers within the limit of digits, finite floats and no more containers
open at once than the reader follows. A document without floats is read as it was (`parse_write`). -/

namespace DaemonClient.Json
open Outcome

/-! ### Documents that are written without loss -/

mutual

/-- A document without floats, with integers that may be written, and with at most so many containers open at once. -/
def fits : Nat → Json → Bool
  | _, null => true
  | _, bool _ => true
  | _, int n => !exceedsDigitLimit n
  | _, float _ => false
  | _, text _ => true
  | 0, array _ => false
  | 0, object _ => false
  | depth + 1, array js => fitItems depth js
  | depth + 1, object ms => fitMembers depth ms

/-- Items that fit a depth. -/
def fitItems (depth : Nat) : List Json → Bool
  | [] => true
  | j :: js => fits depth j && fitItems depth js

/-- Members that fit a depth. -/
def fitMembers (depth : Nat) : List (String × Json) → Bool
  | [] => true
  | (_, j) :: ms => fits depth j && fitMembers depth ms

end

/-- Induction over documents: what holds of all items and of all members holds of the array and of the object. -/
@[elab_as_elim, induction_eliminator]
theorem induct {P : Json → Prop} (null : P .null) (bool : ∀ b, P (.bool b)) (int : ∀ n, P (.int n))
    (float : ∀ x, P (.float x)) (text : ∀ s, P (.text s)) (array : ∀ js, (∀ j ∈ js, P j) → P (.array js))
    (object : ∀ ms, (∀ m ∈ ms, P m.2) → P (.object ms)) (j : Json) : P j :=
  @Json.rec P (fun js => ∀ j ∈ js, P j) (fun ms => ∀ m ∈ ms, P m.2) (fun m => P m.2) null bool int float text array
    object (fun _ h => absurd h List.not_mem_nil) (fun _ _ hj hjs => List.forall_mem_cons.mpr ⟨hj, hjs⟩)
    (fun _ h => absurd h List.not_mem_nil) (fun _ _ hm hms => List.forall_mem_cons.mpr ⟨hm, hms⟩) (fun _ _ h => h) j

theorem fitItems_iff {depth : Nat} {js : List Json} : fitItems depth js = true ↔ ∀ j ∈ js, fits depth j = true := by
  induction js with
  | nil => simp [fitItems]
  | cons j js ih => rw [fitItems, Bool.and_eq_true, ih, List.forall_mem_cons]

theorem fitMembers_iff {depth : Nat} {ms : List (String × Json)} :
    fitMembers depth ms = true ↔ ∀ m ∈ ms, fits depth m.2 = true := by
  induction ms with
  | nil => simp [fitMembers]
  | cons m ms ih => rw [fitMembers, Bool.and_eq_true, ih, List.forall_mem_cons]

theorem fits_array {depth : Nat} {js : List Json} :
    fits depth (array js) = true ↔ ∃ inner, depth = inner + 1 ∧ ∀ j ∈ js, fits inner j = true := by
  cases depth <;> simp [fits, fitItems_iff]

theorem fits_object {depth : Nat} {ms : List (String × Json)} :
    fits depth (object ms) = true ↔ ∃ inner, depth = inner + 1 ∧ ∀ m ∈ ms, fits inner m.2 = true := by
  cases depth <;> simp [fits, fitMembers_iff]

/-! ### How deep a document is -/

mutual

/-- How many arrays and objects are open at once where a document is deepest. -/
def nesting : Json → Nat
  | array js => nestingItems js + 1
  | object ms => nestingMembers ms + 1
  | _ => 0

/-- The deepest nesting of some items. -/
def nestingItems : List Json → Nat
  | [] => 0
  | j :: js => max (nesting j) (nestingItems js)

/-- The deepest nesting of some members. -/
def nestingMembers : List (String × Json) → Nat
  | [] => 0
  | (_, j) :: ms => max (nesting j) (nestingMembers ms)

end

theorem nestingItems_le {js : List Json} {n : Nat} : nestingItems js ≤ n ↔ ∀ j ∈ js, nesting j ≤ n := by
  induction js with
  | nil => simp [nestingItems]
  | cons j js ih => rw [nestingItems, Nat.max_le, ih, List.forall_mem_cons]

theorem nestingMembers_le {ms : List (String × Json)} {n : Nat} :
    nestingMembers ms ≤ n ↔ ∀ m ∈ ms, nesting m.2 ≤ n := by
  induction ms with
  | nil => simp [nestingMembers]
  | cons m ms ih => rw [nestingMembers, Nat.max_le, ih, List.forall_mem_cons]

/-! ### Documents that can be written -/

mutual

/-- A document whose integers may be written and whose floats are finite. -/
def isWritable : Json → Bool
  | int n => !exceedsDigitLimit n
  | float x => x.isFinite
  | array js => itemsAreWritable js
  | object ms => membersAreWritable ms
  | _ => true

def itemsAreWritable : List Json → Bool
  | [] => true
  | j :: js => isWritable j && itemsAreWritable js

def membersAreWritable : List (String × Json) → Bool
  | [] => true
  | (_, j) :: ms => isWritable j && membersAreWritable ms

end

theorem isWritable_array {js : List Json} : isWritable (array js) = true ↔ ∀ j ∈ js, j.isWritable = true := by
  rw [isWritable]
  induction js with
  | nil => simp [itemsAreWritable]
  | cons j js ih => rw [itemsAreWritable, Bool.and_eq_true, ih, List.forall_mem_cons]

theorem isWritable_object {ms : List (String × Json)} :
    isWritable (object ms) = true ↔ ∀ m ∈ ms, m.2.isWritable = true := by
  rw [isWritable]
  induction ms with
  | nil => simp [membersAreWritable]
  | cons m ms ih => rw [membersAreWritable, Bool.and_eq_true, ih, List.forall_mem_cons]

mutual

/-- A document with its floats as their texts are read. -/
def reread : Json → Json
  | float x => float x.reread
  | array js => array (rereadItems js)
  | object ms => object (rereadMembers ms)
  | j => j

def rereadItems : List Json → List Json
  | [] => []
  | j :: js => reread j :: rereadItems js

def rereadMembers : List (String × Json) → List (String × Json)
  | [] => []
  | (k, j) :: ms => (k, reread j) :: rereadMembers ms

end

theorem reread_array (js : List Json) : reread (array js) = array (js.map reread) := by
  rw [reread]
  refine congrArg array ?_
  induction js with
  | nil => rfl
  | cons j js ih => rw [rereadItems, ih, List.map_cons]

theorem reread_object (ms : List (String × Json)) :
    reread (object ms) = object (ms.map fun m => (m.1, m.2.reread)) := by
  rw [reread]
  refine congrArg object ?_
  induction ms with
  | nil => rfl
  | cons m ms ih => rw [rereadMembers, ih, List.map_cons]

/-- A document without floats that fits a depth can be written, and is the same where its floats are read again. -/
theorem isWritable_of_fits {depth : Nat} {j : Json} (h : fits depth j = true) :
    j.isWritable = true ∧ j.nesting ≤ depth ∧ j.reread = j := by
  induction j generalizing depth with
  | int n => exact ⟨by simpa only [fits, isWritable] using h, Nat.zero_le _, rfl⟩
  | float x => simp [fits] at h
  | array js ih =>
      obtain ⟨inner, rfl, hjs⟩ := fits_array.mp h
      have hall : ∀ j ∈ js, j.isWritable = true ∧ j.nesting ≤ inner ∧ j.reread = j := fun j hj => ih j hj (hjs j hj)
      refine ⟨isWritable_array.mpr fun j hj => (hall j hj).1, ?_, ?_⟩
      · exact Nat.succ_le_succ (nestingItems_le.mpr fun j hj => (hall j hj).2.1)
      · rw [reread_array, List.map_congr_left (fun j hj => (hall j hj).2.2), List.map_id']
  | object ms ih =>
      obtain ⟨inner, rfl, hms⟩ := fits_object.mp h
      have hall : ∀ m ∈ ms, m.2.isWritable = true ∧ m.2.nesting ≤ inner ∧ m.2.reread = m.2 :=
        fun m hm => ih m hm (hms m hm)
      refine ⟨isWritable_object.mpr fun m hm => (hall m hm).1, ?_, ?_⟩
      · exact Nat.succ_le_succ (nestingMembers_le.mpr fun m hm => (hall m hm).2.1)
      · have hsame : ∀ m ∈ ms, (m.1, m.2.reread) = m := fun m hm => Prod.ext rfl (hall m hm).2.2
        rw [reread_object, List.map_congr_left hsame, List.map_id']
  | _ => exact ⟨rfl, Nat.zero_le _, rfl⟩

/-! ### Reading documents -/

theorem skipBlanks_cons {c : Char} (h : isBlank c = false) (rest : List Char) :
    skipBlanks (c :: rest) = c :: rest := by
  rw [skipBlanks, List.dropWhile_cons_of_neg (by rw [h]; exact Bool.false_ne_true)]

theorem skipBlanks_ne {c d : Char} (hblank : isBlank c = false) (hne : c ≠ d) (cs rest : List Char) :
    skipBlanks (c :: cs) ≠ d :: rest := by
  rw [skipBlanks_cons hblank]
  exact fun heq => hne (List.cons.inj heq).1

/-- A text whose first character opens nothing is left to the scalars. -/
theorem readDocument_scalar (tolerance : Tolerance) (fuel depth : Nat) {c : Char} (rest : List Char)
    (hblank : isBlank c = false) (hquote : c ≠ '"') (hbracket : c ≠ '[') (hbrace : c ≠ '\x7b') :
    readDocument tolerance (fuel + 1) depth (c :: rest) =
      orMalformed (readScalar tolerance.longFloats (c :: rest)) := by
  rw [readDocument, skipBlanks_cons hblank]
  split
  · rename_i he; exact absurd (List.cons.inj he).1 hquote
  · rename_i he; exact absurd (List.cons.inj he).1 hbracket
  · rename_i he; exact absurd (List.cons.inj he).1 hbrace
  · rfl

theorem delimits_of_closing {c : Char} (h : c = ',' ∨ c = ']' ∨ c = '\x7d') (rest : List Char) :
    Delimits (c :: rest) := by
  intro d hd
  obtain rfl : c = d := by simpa using hd
  rcases h with rfl | rfl | rfl <;> decide

theorem delimits_writeItems (js : List Json) (rest : List Char) : Delimits (writeItems js ++ rest) := by
  cases js with
  | nil => exact delimits_of_closing (by simp) _
  | cons j js => exact delimits_of_closing (by simp) _

theorem delimits_writeMembers (ms : List (String × Json)) (rest : List Char) :
    Delimits (writeMembers ms ++ rest) := by
  cases ms with
  | nil => exact delimits_of_closing (by simp) _
  | cons m ms => exact delimits_of_closing (by simp) _

/-- The written form of a document is read at the beginning of a text, within a depth that covers its nesting. -/
def Rereads (tolerance : Tolerance) (depth : Nat) (j : Json) : Prop :=
  ∀ (fuel : Nat) (rest : List Char), (write j).length ≤ fuel → Delimits rest →
    readDocument tolerance fuel depth (write j ++ rest) = .ok (j.reread, rest)

theorem readItems_last {tolerance : Tolerance} {fuel depth : Nat} {cs after rest : List Char} {j : Json}
    (h : readDocument tolerance fuel depth cs = .ok (j, after)) (hclose : skipBlanks after = ']' :: rest) :
    readItems tolerance (fuel + 1) depth cs = .ok ([j], rest) := by
  simp only [readItems, h, bind_ok, hclose]
  rfl

theorem readItems_more {tolerance : Tolerance} {fuel depth : Nat} {cs after cs' rest : List Char} {j : Json}
    {js : List Json} (h : readDocument tolerance fuel depth cs = .ok (j, after))
    (hcomma : skipBlanks after = ',' :: cs') (hs : readItems tolerance fuel depth cs' = .ok (js, rest)) :
    readItems tolerance (fuel + 1) depth cs = .ok (j :: js, rest) := by
  simp only [readItems, h, hs, bind_ok, hcomma]
  rfl

theorem readItems_write {tolerance : Tolerance} {depth : Nat} {js : List Json}
    (hjs : ∀ j ∈ js, Rereads tolerance depth j) {j : Json} (hj : Rereads tolerance depth j) {fuel : Nat}
    (hfuel : (write j).length + (writeItems js).length ≤ fuel) (rest : List Char) :
    readItems tolerance fuel depth (write j ++ (writeItems js ++ rest)) = .ok (j.reread :: js.map reread, rest) := by
  induction js generalizing j fuel with
  | nil =>
      simp only [writeItems, List.length_singleton] at hfuel
      obtain ⟨fuel, rfl⟩ : ∃ f, fuel = f + 1 := ⟨fuel - 1, by omega⟩
      exact readItems_last (hj _ _ (by omega) (delimits_writeItems [] rest)) (skipBlanks_cons rfl rest)
  | cons j' js ih =>
      obtain ⟨hj', hjs⟩ := List.forall_mem_cons.mp hjs
      simp only [writeItems, List.length_cons, List.length_append] at hfuel
      obtain ⟨fuel, rfl⟩ : ∃ f, fuel = f + 1 := ⟨fuel - 1, by omega⟩
      refine readItems_more (hj _ _ (by omega) (delimits_writeItems (j' :: js) rest)) ?_ (ih hjs hj' (by omega))
      rw [writeItems, List.cons_append, List.append_assoc]
      exact skipBlanks_cons rfl _

/-- A text that begins with the name of a member and its colon, and what follows them. -/
def Names (standIn? : Option (Nat → Char)) (cs : List Char) (k : String) (value : List Char) : Prop :=
  ∃ name after, skipBlanks cs = '"' :: name ∧ readText standIn? name = some (k, after) ∧ skipBlanks after = ':' :: value

theorem names_writeText (standIn? : Option (Nat → Char)) (k : String) (cs : List Char) :
    Names standIn? (writeText k ++ ':' :: cs) k cs := by
  refine ⟨k.toList.flatMap escapeChar ++ '"' :: ':' :: cs, ':' :: cs, ?_, readText_escaped standIn? k _,
    skipBlanks_cons rfl cs⟩
  rw [writeText, List.cons_append, List.append_assoc]
  exact skipBlanks_cons rfl _

theorem readMembers_last {tolerance : Tolerance} {fuel depth : Nat} {cs value after rest : List Char} {k : String}
    {j : Json} (hname : Names tolerance.standIn? cs k value)
    (h : readDocument tolerance fuel depth value = .ok (j, after)) (hclose : skipBlanks after = '\x7d' :: rest) :
    readMembers tolerance (fuel + 1) depth cs = .ok ([(k, j)], rest) := by
  obtain ⟨name, after', hopen, htext, hcolon⟩ := hname
  have hread : orMalformed (readText tolerance.standIn? name) = .ok (k, after') := congrArg orMalformed htext
  simp only [readMembers, hopen, hread, hcolon, h, hclose, bind_ok]
  rfl

theorem readMembers_more {tolerance : Tolerance} {fuel depth : Nat} {cs value after cs' rest : List Char} {k : String}
    {j : Json} {ms : List (String × Json)} (hname : Names tolerance.standIn? cs k value)
    (h : readDocument tolerance fuel depth value = .ok (j, after)) (hcomma : skipBlanks after = ',' :: cs')
    (hs : readMembers tolerance fuel depth cs' = .ok (ms, rest)) :
    readMembers tolerance (fuel + 1) depth cs = .ok ((k, j) :: ms, rest) := by
  obtain ⟨name, after', hopen, htext, hcolon⟩ := hname
  have hread : orMalformed (readText tolerance.standIn? name) = .ok (k, after') := congrArg orMalformed htext
  simp only [readMembers, hopen, hread, hcolon, h, hcomma, hs, bind_ok]
  rfl

theorem readMembers_write {tolerance : Tolerance} {depth : Nat} {ms : List (String × Json)}
    (hms : ∀ m ∈ ms, Rereads tolerance depth m.2) {k : String} {j : Json} (hj : Rereads tolerance depth j)
    {fuel : Nat} (hfuel : (write j).length + (writeMembers ms).length ≤ fuel) (rest : List Char) :
    readMembers tolerance fuel depth (writeText k ++ ':' :: (write j ++ (writeMembers ms ++ rest))) =
      .ok ((k, j.reread) :: ms.map fun m => (m.1, m.2.reread), rest) := by
  induction ms generalizing k j fuel with
  | nil =>
      simp only [writeMembers, List.length_singleton] at hfuel
      obtain ⟨fuel, rfl⟩ : ∃ f, fuel = f + 1 := ⟨fuel - 1, by omega⟩
      exact readMembers_last (names_writeText _ k _) (hj _ _ (by omega) (delimits_writeMembers [] rest))
        (skipBlanks_cons rfl rest)
  | cons m ms ih =>
      obtain ⟨k', j'⟩ := m
      have hj' : Rereads tolerance depth j' := hms _ List.mem_cons_self
      have hms' := (List.forall_mem_cons.mp hms).2
      simp only [writeMembers, List.length_cons, List.length_append] at hfuel
      obtain ⟨fuel, rfl⟩ : ∃ f, fuel = f + 1 := ⟨fuel - 1, by omega⟩
      have hread := hj fuel _ (by omega) (delimits_writeMembers ((k', j') :: ms) rest)
      refine readMembers_more (names_writeText _ k _) hread ?_ (ih hms' hj' (by omega))
      simp only [writeMembers, List.cons_append, List.append_assoc]
      exact skipBlanks_cons rfl _

/-- A number is read from its text. -/
theorem rereads_numeral {tolerance : Tolerance} {depth : Nat} {j : Json} {c : Char} {cs : List Char}
    (hwrite : write j = c :: cs) (hc : IsNumeral c)
    (h : ∀ {rest : List Char}, Delimits rest →
      readScalar tolerance.longFloats (write j ++ rest) = some (j.reread, rest)) :
    Rereads tolerance depth j := by
  intro fuel rest hfuel hrest
  have hscalar := h hrest
  rw [hwrite, List.cons_append] at hscalar ⊢
  obtain ⟨fuel, rfl⟩ : ∃ f, fuel = f + 1 := ⟨fuel - 1, by simp [hwrite] at hfuel; omega⟩
  rw [readDocument_scalar tolerance fuel depth _ hc.not_blank (hc.ne (by decide) (by decide))
    (hc.ne (by decide) (by decide)) (hc.ne (by decide) (by decide)), hscalar]
  rfl

theorem write_float {x : Binary64} (hx : x.isFinite = true) : write (float x) = x.text := by
  rw [Binary64.isFinite, bne_iff_ne] at hx
  rw [write, writeFloat]
  simp [Binary64.isNaN, Binary64.isInfinite, hx]

theorem rereads_float {x : Binary64} (hx : x.isFinite = true) (tolerance : Tolerance) (depth : Nat) :
    Rereads tolerance depth (float x) := by
  obtain ⟨c, cs, htext, hc⟩ := floatText_eq_cons hx
  apply rereads_numeral (by rw [write_float hx, htext]) hc
  intro rest hrest
  rw [write_float hx]
  exact readScalar_reread hx tolerance.longFloats hrest

theorem rereads_int {n : Int} (hn : exceedsDigitLimit n = false) (tolerance : Tolerance) (depth : Nat) :
    Rereads tolerance depth (int n) := by
  obtain ⟨c, cs, htext, hc⟩ := decimalText_eq_cons n
  exact rereads_numeral (j := int n) htext hc (readScalar_decimalText hn tolerance.longFloats)

theorem rereads_text (tolerance : Tolerance) (depth : Nat) (s : String) : Rereads tolerance depth (text s) := by
  intro fuel rest hfuel hrest
  rw [write, writeText] at hfuel ⊢
  obtain ⟨fuel, rfl⟩ : ∃ f, fuel = f + 1 := ⟨fuel - 1, by simp at hfuel; omega⟩
  rw [List.cons_append, readDocument, skipBlanks_cons rfl]
  simp only [List.append_assoc, List.singleton_append, readText_escaped]
  rfl

/-- A document that can be written begins with a character that is neither a blank nor the end of an array. -/
theorem write_eq_cons_of_isWritable (j : Json) (h : j.isWritable = true) :
    ∃ c cs, write j = c :: cs ∧ isBlank c = false ∧ c ≠ ']' := by
  cases j with
  | null => exact ⟨_, _, rfl, rfl, by decide⟩
  | bool b => cases b <;> exact ⟨_, _, rfl, rfl, by decide⟩
  | int n =>
      obtain ⟨c, cs, htext, hc⟩ := decimalText_eq_cons n
      exact ⟨c, cs, htext, hc.not_blank, hc.ne (by decide) (by decide)⟩
  | float x =>
      obtain ⟨c, cs, htext, hc⟩ := floatText_eq_cons h
      exact ⟨c, cs, by rw [write_float h, htext], hc.not_blank, hc.ne (by decide) (by decide)⟩
  | text s => exact ⟨_, _, rfl, rfl, by decide⟩
  | array js => cases js <;> exact ⟨_, _, rfl, rfl, by decide⟩
  | object ms => cases ms <;> exact ⟨_, _, rfl, rfl, by decide⟩

/-- An array that ends at once. -/
theorem readDocument_emptyArray {tolerance : Tolerance} {fuel depth : Nat} {cs after rest : List Char}
    (hopen : skipBlanks cs = '[' :: after) (hclose : skipBlanks after = ']' :: rest) :
    readDocument tolerance (fuel + 1) (depth + 1) cs = .ok (array [], rest) := by
  simp only [readDocument, hopen, hclose]

/-- An array that does not end at once is read item by item. -/
theorem readDocument_array {tolerance : Tolerance} {fuel depth : Nat} {cs after : List Char}
    (hopen : skipBlanks cs = '[' :: after) (hitem : ∀ rest, skipBlanks after ≠ ']' :: rest) :
    readDocument tolerance (fuel + 1) (depth + 1) cs =
      (readItems tolerance fuel depth after).map fun r => (array r.1, r.2) := by
  simp only [readDocument, hopen]

/-- An object that ends at once. -/
theorem readDocument_emptyObject {tolerance : Tolerance} {fuel depth : Nat} {cs after rest : List Char}
    (hopen : skipBlanks cs = '\x7b' :: after) (hclose : skipBlanks after = '\x7d' :: rest) :
    readDocument tolerance (fuel + 1) (depth + 1) cs = .ok (object [], rest) := by
  simp only [readDocument, hopen, hclose]

/-- An object that does not end at once is read member by member. -/
theorem readDocument_object {tolerance : Tolerance} {fuel depth : Nat} {cs after : List Char}
    (hopen : skipBlanks cs = '\x7b' :: after) (hmember : ∀ rest, skipBlanks after ≠ '\x7d' :: rest) :
    readDocument tolerance (fuel + 1) (depth + 1) cs =
      (readMembers tolerance fuel depth after).map fun r => (object r.1, r.2) := by
  simp only [readDocument, hopen]

theorem rereads_array {tolerance : Tolerance} {depth : Nat} {js : List Json} (hjs : ∀ j ∈ js, j.isWritable = true)
    (ih : ∀ j ∈ js, Rereads tolerance depth j) : Rereads tolerance (depth + 1) (array js) := by
  intro fuel rest hfuel hrest
  rw [reread_array]
  cases js with
  | nil =>
      obtain ⟨fuel, rfl⟩ : ∃ f, fuel = f + 1 := ⟨fuel - 1, by simp [write] at hfuel; omega⟩
      exact readDocument_emptyArray (skipBlanks_cons rfl _) (skipBlanks_cons rfl rest)
  | cons j js =>
      obtain ⟨hj, hrereads⟩ := List.forall_mem_cons.mp ih
      simp only [write, List.length_cons, List.length_append] at hfuel
      obtain ⟨fuel, rfl⟩ : ∃ f, fuel = f + 1 := ⟨fuel - 1, by omega⟩
      have hread := readItems_write hrereads hj (show (write j).length + (writeItems js).length ≤ fuel by omega) rest
      obtain ⟨c, cs, hcs, hblank, hclose⟩ := write_eq_cons_of_isWritable j (hjs j List.mem_cons_self)
      rw [hcs, List.cons_append] at hread
      rw [write, List.cons_append, List.append_assoc, hcs, List.cons_append,
        readDocument_array (skipBlanks_cons rfl _) (skipBlanks_ne hblank hclose _), hread]
      rfl

theorem rereads_object {tolerance : Tolerance} {depth : Nat} {ms : List (String × Json)}
    (ih : ∀ m ∈ ms, Rereads tolerance depth m.2) : Rereads tolerance (depth + 1) (object ms) := by
  intro fuel rest hfuel hrest
  rw [reread_object]
  cases ms with
  | nil =>
      obtain ⟨fuel, rfl⟩ : ∃ f, fuel = f + 1 := ⟨fuel - 1, by simp [write] at hfuel; omega⟩
      exact readDocument_emptyObject (skipBlanks_cons rfl _) (skipBlanks_cons rfl rest)
  | cons m ms =>
      obtain ⟨k, j⟩ := m
      obtain ⟨hj, hrereads⟩ := List.forall_mem_cons.mp ih
      simp only [write, List.length_cons, List.length_append] at hfuel
      obtain ⟨fuel, rfl⟩ : ∃ f, fuel = f + 1 := ⟨fuel - 1, by omega⟩
      have hread := readMembers_write (k := k) hrereads hj
        (show (write j).length + (writeMembers ms).length ≤ fuel by omega) rest
      simp only [write, List.cons_append, List.append_assoc]
      simp only [writeText, List.cons_append] at hread ⊢
      rw [readDocument_object (skipBlanks_cons rfl _) (skipBlanks_ne rfl (by decide) _), hread]
      rfl

/-- A word is read as the document it stands for. -/
theorem rereads_word {tolerance : Tolerance} {depth : Nat} {j : Json} {c : Char} {cs : List Char}
    (hwrite : write j = c :: cs) (hc : isBlank c = false ∧ c ≠ '"' ∧ c ≠ '[' ∧ c ≠ '\x7b')
    (h : ∀ rest, readScalar tolerance.longFloats (c :: cs ++ rest) = some (j.reread, rest)) :
    Rereads tolerance depth j := by
  intro fuel rest hfuel _
  rw [hwrite] at hfuel ⊢
  obtain ⟨fuel, rfl⟩ : ∃ f, fuel = f + 1 := ⟨fuel - 1, by simp at hfuel; omega⟩
  have hscalar := h rest
  rw [List.cons_append] at hscalar ⊢
  rw [readDocument_scalar tolerance fuel depth _ hc.1 hc.2.1 hc.2.2.1 hc.2.2.2, hscalar]
  rfl

/-- Every document that can be written is read, with its floats as their texts say. -/
theorem rereads (tolerance : Tolerance) {depth : Nat} {j : Json} (h : j.isWritable = true)
    (hdepth : j.nesting ≤ depth) : Rereads tolerance depth j := by
  induction j generalizing depth with
  | null => exact rereads_word rfl (by decide) fun rest => rfl
  | bool b => cases b <;> exact rereads_word rfl (by decide) fun rest => rfl
  | int n => exact rereads_int (by simpa only [isWritable, Bool.not_eq_true'] using h) tolerance depth
  | float x => exact rereads_float h tolerance depth
  | text s => exact rereads_text tolerance depth s
  | array js ih =>
      obtain ⟨inner, rfl⟩ : ∃ inner, depth = inner + 1 := ⟨depth - 1, by rw [nesting] at hdepth; omega⟩
      have hitems := isWritable_array.mp h
      have hnesting := nestingItems_le.mp (Nat.le_of_succ_le_succ hdepth)
      exact rereads_array hitems fun j hj => ih j hj (hitems j hj) (hnesting j hj)
  | object ms ih =>
      obtain ⟨inner, rfl⟩ : ∃ inner, depth = inner + 1 := ⟨depth - 1, by rw [nesting] at hdepth; omega⟩
      have hmembers := isWritable_object.mp h
      have hnesting := nestingMembers_le.mp (Nat.le_of_succ_le_succ hdepth)
      exact rereads_object fun m hm => ih m hm (hmembers m hm) (hnesting m hm)

/-- A document that can be written is read from its text, with its floats as their texts say. -/
theorem parse_write_reread {limits : Limits} {j : Json} (h : j.isWritable = true) (hdepth : j.nesting ≤ limits.depth) :
    parse limits j.write = .ok j.reread := by
  have hread : readDocument limits.tolerance (2 * j.write.length + 1) limits.depth (j.write ++ []) =
      .ok (j.reread, []) := rereads limits.tolerance h hdepth _ _ (by omega) delimits_nil
  rw [List.append_nil] at hread
  rw [parse, hread]
  rfl

/-- Reading takes back what writing put down. -/
theorem parse_write {limits : Limits} {j : Json} (h : fits limits.depth j = true) : parse limits j.write = .ok j := by
  obtain ⟨hwritable, hdepth, hsame⟩ := isWritable_of_fits h
  rw [parse_write_reread hwritable hdepth, hsame]

theorem parseBody_render {j : Json} (h : fits bodyDepth j = true) : parseBody j.render = .ok j := by
  rw [parseBody, render, String.toList_ofList, parse_write h]

end DaemonClient.Json
