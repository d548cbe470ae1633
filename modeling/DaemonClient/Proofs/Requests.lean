import DaemonClient.Proofs.Endings

/-! What a daemon reads of the octets that go out. A request whose method and target are printed characters is read as
that request and as nothing more (`receiveAll_octets`): the line has one method, one target and one version, and after
the headers comes a body of the length that they tell, and then nothing. -/

namespace DaemonClient.Request

/-! ### Reading requests -/

/-- A request as a daemon reads it. -/
structure Received where
  method : String
  target : String
  headers : List Header
  body : List UInt8

/-- The characters of a line, without its end. -/
def lineText (line : List UInt8) : List Char :=
  ((Reply.latin line).reverse.dropWhile fun c => c == '\r' || c == '\n').reverse

/-- A header of its line: the name before the first colon, and the value after the blanks that follow it. -/
def headerOf (cs : List Char) : Header :=
  (String.ofList (cs.takeWhile (· != ':')), String.ofList (((cs.dropWhile (· != ':')).drop 1).dropWhile (· == ' ')))

/-- The headers up to an empty line, and what follows it. Fuel bounds the number of lines. -/
def receiveHeaders : Nat → List UInt8 → Option (List Header × List UInt8)
  | 0, _ => none
  | fuel + 1, bs =>
    let (line, rest) := Reply.takeLine bs
    match lineText line with
    | [] => if line.isEmpty then none else some ([], rest)
    | c :: cs => (receiveHeaders fuel rest).map fun r => (headerOf (c :: cs) :: r.1, r.2)

/-- The length of a body: as told, none if nothing is told. -/
def bodyLength? (hs : List Header) : Option Nat :=
  match Reply.header? hs "content-length" with
  | none => some 0
  | some s => if s.toList.all isAsciiDigit then some (asciiValue s.toList) else none

/-- The request at the beginning of some octets, and what follows it. -/
def receive (bs : List UInt8) : Option (Received × List UInt8) := do
  let (line, rest) := Reply.takeLine bs
  match Percent.split ' ' (lineText line) with
  | [method, target, version] =>
    if version != "HTTP/1.1".toList then none
    else do
      let (hs, rest') ← receiveHeaders bs.length rest
      let n ← bodyLength? hs
      if rest'.length < n then none
      else return (⟨String.ofList method, String.ofList target, hs, rest'.take n⟩, rest'.drop n)
  | _ => none

/-- All requests that some octets hold, if they hold nothing else. Fuel bounds their number. -/
def receiveAll : Nat → List UInt8 → Option (List Received)
  | _, [] => some []
  | 0, _ => none
  | fuel + 1, bs => do
    let (r, rest) ← receive bs
    let rs ← receiveAll fuel rest
    return r :: rs

/-! ### Lines -/

/-- The octets of text in ASCII. -/
def asciiOctets (cs : List Char) : List UInt8 := cs.map fun c => UInt8.ofNat c.toNat

/-- Characters that a line may have before its end: printed ones and the blank. -/
def isOfLine (c : Char) : Bool := isPrinted c || c == ' '

theorem toNat_of_isOfLine {c : Char} (h : isOfLine c = true) : 0x20 ≤ c.toNat ∧ c.toNat ≤ 0x7E := by
  simp only [isOfLine, isPrinted, Bool.or_eq_true, Bool.and_eq_true, decide_eq_true_eq, beq_iff_eq] at h
  rcases h with h | rfl
  · omega
  · decide

theorem isOfLine_of_isPrinted {c : Char} (h : isPrinted c = true) : isOfLine c = true := by
  rw [isOfLine, h, Bool.true_or]

theorem toNat_ofNat {c : Char} (h : isOfLine c = true) : (UInt8.ofNat c.toNat).toNat = c.toNat := by
  have hc := toNat_of_isOfLine h
  rw [UInt8.toNat_ofNat']
  exact Nat.mod_eq_of_lt (by omega)

theorem latin_line {cs : List Char} (h : cs.all isOfLine = true) :
    Reply.latin (asciiOctets (cs ++ ['\r', '\n'])) = cs ++ ['\r', '\n'] := by
  have hcs : Reply.latin (asciiOctets cs) = cs := by
    rw [Reply.latin, asciiOctets, List.map_map]
    refine (List.map_congr_left fun c hc => ?_).trans (List.map_id cs)
    rw [Function.comp_apply, toNat_ofNat (List.all_eq_true.mp h c hc), Char.ofNat_toNat]
    rfl
  rw [Reply.latin, asciiOctets] at hcs ⊢
  rw [List.map_append, List.map_append, hcs]
  rfl

/-- A line is taken up to its end, since no character before the end is one. -/
theorem takeLine_line {cs : List Char} (h : cs.all isOfLine = true) (rest : List UInt8) :
    Reply.takeLine (asciiOctets (cs ++ ['\r', '\n']) ++ rest) = (asciiOctets (cs ++ ['\r', '\n']), rest) := by
  induction cs with
  | nil => rfl
  | cons c cs ih =>
      rw [List.all_cons, Bool.and_eq_true] at h
      have hfeed : UInt8.ofNat c.toNat ≠ 0x0A := by
        intro heq
        have hc := toNat_of_isOfLine h.1
        have htoNat : c.toNat = 0x0A := (toNat_ofNat h.1).symm.trans (congrArg UInt8.toNat heq)
        omega
      have hcons : asciiOctets (c :: cs ++ ['\r', '\n']) =
          UInt8.ofNat c.toNat :: asciiOctets (cs ++ ['\r', '\n']) := rfl
      rw [hcons, List.cons_append, Reply.takeLine, if_neg hfeed, ih h.2]

theorem lineText_line {cs : List Char} (h : cs.all isOfLine = true) :
    lineText (asciiOctets (cs ++ ['\r', '\n'])) = cs := by
  have hkeep : (cs.reverse).dropWhile (fun c => c == '\r' || c == '\n') = cs.reverse := by
    cases hlast : cs.reverse with
    | nil => rfl
    | cons c front =>
        have hmem : c ∈ cs := List.mem_reverse.mp (hlast ▸ List.mem_cons_self)
        have hc := toNat_of_isOfLine (List.all_eq_true.mp h c hmem)
        refine List.dropWhile_cons_of_neg fun hend => ?_
        rw [Bool.or_eq_true, beq_iff_eq, beq_iff_eq] at hend
        rcases hend with rfl | rfl
        · exact absurd hc (by decide)
        · exact absurd hc (by decide)
  rw [lineText, latin_line h, List.reverse_append]
  change ((cs.reverse).dropWhile fun c => c == '\r' || c == '\n').reverse = cs
  rw [hkeep, List.reverse_reverse]

/-! ### Headers -/

/-- A header of printed characters, with a name that has no colon. -/
def isPlainHeader (h : Header) : Bool :=
  h.1.toList.all (fun c => isPrinted c && c != ':') && h.2.toList.all isPrinted

theorem headerOf_line {h : Header} (hplain : isPlainHeader h = true) :
    headerOf (h.1.toList ++ ':' :: ' ' :: h.2.toList) = h := by
  simp only [isPlainHeader, Bool.and_eq_true, List.all_eq_true] at hplain
  obtain ⟨hname, hvalue⟩ := hplain
  have hcolon : ∀ c ∈ h.1.toList, (c != ':') = true := fun c hc => (hname c hc).2
  have hblank : h.2.toList.dropWhile (· == ' ') = h.2.toList := by
    cases hfirst : h.2.toList with
    | nil => rfl
    | cons c cs =>
        have hc := hvalue c (hfirst ▸ List.mem_cons_self)
        refine List.dropWhile_cons_of_neg fun heq => ?_
        rw [eq_of_beq heq] at hc
        exact absurd hc (by decide)
  rw [headerOf, List.takeWhile_append_of_pos hcolon, List.dropWhile_append_of_pos hcolon]
  change (String.ofList (h.1.toList ++ []), String.ofList (h.2.toList.dropWhile (· == ' '))) = h
  rw [hblank, List.append_nil, String.ofList_toList, String.ofList_toList]

theorem all_isOfLine_header {h : Header} (hplain : isPlainHeader h = true) :
    (h.1.toList ++ ':' :: ' ' :: h.2.toList).all isOfLine = true := by
  simp only [isPlainHeader, Bool.and_eq_true, List.all_eq_true] at hplain
  obtain ⟨hname, hvalue⟩ := hplain
  rw [List.all_append, List.all_cons, List.all_cons, Bool.and_eq_true]
  refine ⟨List.all_eq_true.mpr fun c hc => isOfLine_of_isPrinted (hname c hc).1, ?_⟩
  rw [show isOfLine ':' = true from by decide, show isOfLine ' ' = true from by decide, Bool.true_and, Bool.true_and]
  exact List.all_eq_true.mpr fun c hc => isOfLine_of_isPrinted (hvalue c hc)

/-- A line that is not empty is one header. -/
theorem receiveHeaders_line {cs : List Char} (h : cs.all isOfLine = true) (hne : cs ≠ []) (fuel : Nat)
    (rest : List UInt8) :
    receiveHeaders (fuel + 1) (asciiOctets (cs ++ ['\r', '\n']) ++ rest) =
      (receiveHeaders fuel rest).map fun r => (headerOf cs :: r.1, r.2) := by
  rw [receiveHeaders, takeLine_line h]
  simp only [lineText_line h]
  cases cs with
  | nil => exact absurd rfl hne
  | cons c cs => rfl

theorem receiveHeaders_lines {hs : List Header} (h : hs.all isPlainHeader = true) {fuel : Nat}
    (hfuel : hs.length < fuel) (rest : List UInt8) :
    receiveHeaders fuel (asciiOctets (hs.flatMap headerLine ++ ['\r', '\n']) ++ rest) = some (hs, rest) := by
  induction hs generalizing fuel with
  | nil =>
      obtain ⟨fuel, rfl⟩ : ∃ f, fuel = f + 1 := ⟨fuel - 1, by simp at hfuel; omega⟩
      rfl
  | cons first hs ih =>
      obtain ⟨fuel, rfl⟩ : ∃ f, fuel = f + 1 := ⟨fuel - 1, by simp at hfuel; omega⟩
      rw [List.all_cons, Bool.and_eq_true] at h
      have hsplit : asciiOctets ((first :: hs).flatMap headerLine ++ ['\r', '\n']) ++ rest =
          asciiOctets (first.1.toList ++ ':' :: ' ' :: first.2.toList ++ ['\r', '\n']) ++
            (asciiOctets (hs.flatMap headerLine ++ ['\r', '\n']) ++ rest) := by
        simp only [asciiOctets, headerLine, List.flatMap_cons, List.map_append, List.map_cons, List.append_assoc,
          List.cons_append]
      rw [hsplit, receiveHeaders_line (all_isOfLine_header h.1) (by simp), headerOf_line h.1,
        ih h.2 (Nat.lt_of_succ_lt_succ hfuel)]
      rfl

/-! ### Whole requests -/

/-- What a daemon should read of a request: its method, its target, its headers and its body. -/
def received (r : Request) (target : String) : Received := ⟨r.method, target, r.sentHeaders, r.body.getD []⟩

theorem line_eq {method target : String} (htarget : target ≠ "") :
    line method target = method.toList ++ ' ' :: (target.toList ++ ' ' :: "HTTP/1.1".toList) := by
  rw [line, sentTarget, if_neg (by simpa using htarget)]
  rfl

theorem split_line {method target : String} (hmethod : method.toList.all isPrinted = true)
    (htarget : target.toList.all isPrinted = true) (hne : target ≠ "") :
    Percent.split ' ' (line method target) = [method.toList, target.toList, "HTTP/1.1".toList] := by
  have hblank {s : String} (h : s.toList.all isPrinted = true) : ' ' ∉ s.toList :=
    fun hmem => absurd (List.all_eq_true.mp h ' ' hmem) (by decide)
  rw [line_eq hne, Percent.split_append (hblank hmethod), Percent.split_append (hblank htarget),
    Percent.split_of_not_mem (by decide)]

theorem all_isOfLine_line {method target : String} (hmethod : method.toList.all isPrinted = true)
    (htarget : target.toList.all isPrinted = true) (hne : target ≠ "") : (line method target).all isOfLine = true := by
  have hprinted {s : String} (h : s.toList.all isPrinted = true) : s.toList.all isOfLine = true :=
    List.all_eq_true.mpr fun c hc => isOfLine_of_isPrinted (List.all_eq_true.mp h c hc)
  rw [line_eq hne, List.all_append, List.all_cons, List.all_append, hprinted hmethod, hprinted htarget]
  decide

theorem length_le_headerLines (hs : List Header) : hs.length ≤ (hs.flatMap headerLine).length := by
  induction hs with
  | nil => exact Nat.le_refl _
  | cons h hs ih =>
      have hpos : 0 < (headerLine h).length := by
        rw [headerLine, List.length_append, List.length_cons]
        omega
      rw [List.flatMap_cons, List.length_append, List.length_cons]
      omega

/-- **What goes out is read as the request and nothing more.** -/
theorem receive_octets {r : Request} {target : String} (hmethod : r.method.toList.all isPrinted = true)
    (htarget : target.toList.all isPrinted = true) (hne : target ≠ "") (hheaders : r.sentHeaders.all isPlainHeader = true)
    (hlength : bodyLength? r.sentHeaders = some (r.body.getD []).length) :
    receive (r.octets target) = some (r.received target, []) := by
  have hoctets : r.octets target = asciiOctets (line r.method target ++ ['\r', '\n']) ++
      (asciiOctets (r.sentHeaders.flatMap headerLine ++ ['\r', '\n']) ++ r.body.getD []) := by
    simp only [octets, head, asciiOctets, List.map_append, List.map_cons, List.append_assoc, List.cons_append,
      List.map_nil, List.nil_append]
  have hfuel : r.sentHeaders.length < (r.octets target).length := by
    have hlines := length_le_headerLines r.sentHeaders
    rw [hoctets]
    simp only [asciiOctets, List.length_append, List.length_map, List.length_cons]
    omega
  rw [receive, hoctets, takeLine_line (all_isOfLine_line hmethod htarget hne), ← hoctets]
  simp only [lineText_line (all_isOfLine_line hmethod htarget hne), split_line hmethod htarget hne,
    receiveHeaders_lines hheaders hfuel, hlength, bne_self_eq_false, Bool.false_eq_true, if_false, Option.bind_eq_bind,
    Option.bind_some, Nat.lt_irrefl, List.take_length, List.drop_length, String.ofList_toList]
  rfl

theorem receiveAll_octets {r : Request} {target : String} (hmethod : r.method.toList.all isPrinted = true)
    (htarget : target.toList.all isPrinted = true) (hne : target ≠ "") (hheaders : r.sentHeaders.all isPlainHeader = true)
    (hlength : bodyLength? r.sentHeaders = some (r.body.getD []).length) :
    receiveAll (r.octets target).length (r.octets target) = some [r.received target] := by
  have hreceive := receive_octets hmethod htarget hne hheaders hlength
  cases hoctets : r.octets target with
  | nil =>
      rw [hoctets] at hreceive
      cases hreceive
  | cons b bs =>
      rw [hoctets] at hreceive
      rw [List.length_cons, receiveAll, hreceive]
      · cases bs.length <;> rfl
      · exact List.cons_ne_nil b bs

/-! ### Requests of calls -/

theorem isPrinted_of_isAsciiDigit {c : Char} (h : isAsciiDigit c = true) : isPrinted c = true := by
  have hdigit : 48 ≤ c.toNat ∧ c.toNat ≤ 57 := (Bool.and_eq_true _ _ ▸ h).imp of_decide_eq_true of_decide_eq_true
  simp only [isPrinted, Bool.and_eq_true, decide_eq_true_eq]
  omega

theorem header?_cons (name value field : String) (hs : List Header) : Reply.header? ((name, value) :: hs) field =
    if name.toList.map Char.toLower == field.toList then some value else Reply.header? hs field := by
  rw [Reply.header?, List.find?_cons]
  split <;> rename_i h <;> rw [h] <;> rfl

theorem toList_toString (n : Nat) : (toString n).toList = decimalDigits n := Nat.toList_repr

section
variable (method path : String) (query : Option (List (Value × Value))) (body : Option (List UInt8))

theorem sentHeaders_some (bs : List UInt8) : (build method path query (some bs)).sentHeaders =
    [("Accept-Encoding", "identity"), ("Host", "localhost"), ("Content-Type", "application/json"),
      ("Content-Length", toString bs.length)] := rfl

/-- The headers of a request that is built are plain, whatever else it holds. -/
theorem isPlainHeader_sentHeaders : (build method path query body).sentHeaders.all isPlainHeader = true := by
  cases body with
  | none =>
      rw [sentHeaders]
      cases announcesNoBody (build method path query none).method <;> rfl
  | some bs =>
      have hdigits : (decimalDigits bs.length).all isPrinted = true :=
        List.all_eq_true.mpr fun c hc => isPrinted_of_isAsciiDigit (isAsciiDigit_of_mem_decimalDigits hc)
      have hname : "Content-Length".toList.all (fun c => isPrinted c && c != ':') = true := by decide
      have hlength : isPlainHeader ("Content-Length", toString bs.length) = true := by
        rw [isPlainHeader, hname, toList_toString, hdigits]
        rfl
      have hfixed : [("Accept-Encoding", "identity"), ("Host", "localhost"),
          ("Content-Type", "application/json")].all isPlainHeader = true := by decide
      simp only [sentHeaders_some, List.all_cons, hlength, List.all_nil, Bool.and_true] at hfixed ⊢
      exact hfixed

/-- The headers of a request that is built tell the length of its body. -/
theorem bodyLength?_sentHeaders :
    bodyLength? (build method path query body).sentHeaders = some (body.getD []).length := by
  cases body with
  | none =>
      rw [sentHeaders]
      cases announcesNoBody (build method path query none).method <;> rfl
  | some bs =>
      have hheader : Reply.header? (build method path query (some bs)).sentHeaders "content-length" =
          some (toString bs.length) := by
        rw [sentHeaders_some, header?_cons, if_neg (by decide), header?_cons, if_neg (by decide), header?_cons,
          if_neg (by decide), header?_cons, if_pos (by decide)]
      have hdigits : (decimalDigits bs.length).all isAsciiDigit = true :=
        List.all_eq_true.mpr fun c => isAsciiDigit_of_mem_decimalDigits
      rw [bodyLength?, hheader]
      simp only [toList_toString, hdigits, if_true, asciiValue_decimalDigits, Option.getD_some]

end

end DaemonClient.Request
