import DaemonClient.Proofs.Addresses

/-! Schemes in address texts. A scheme is taken out, or replaced, at its first occurrence, which need not be the
beginning of the text. A path that holds `unix://` further inside loses it there, so a daemon at such a path is reached
only with a `unix://` of its own in front (`choose_path_iff`). After `http://` a host may be written with `tcp://` behind
it; that scheme is replaced, and `tcp` ends the name of the host in one text where `http` ends it in the other
(`sameHost_iff`). -/

namespace DaemonClient

/-! ### The end of a lower form -/

namespace Text

/-- The lower form of a text ends with the lower form of its end. -/
theorem lowerAfter_append (before cs more : List Char) :
    ∃ front before', lowerAfter before (cs ++ more) = front ++ lowerAfter before' more := by
  induction cs generalizing before with
  | nil => exact ⟨[], before, rfl⟩
  | cons c cs ih =>
      obtain ⟨front, before', hrest⟩ := ih (c :: before)
      exact ⟨lowerIn before (cs ++ more) c ++ front, before', by
        rw [List.cons_append, lowerAfter_cons, hrest, List.append_assoc]⟩

theorem lowerAfter_eq_self {before cs : List Char} (h : ∀ c ∈ cs, c ≠ 'Σ' ∧ lowerChar c = [c]) :
    lowerAfter before cs = cs := by
  induction cs generalizing before with
  | nil => rfl
  | cons c cs ih =>
      obtain ⟨⟨hsigma, hsame⟩, hrest⟩ := List.forall_mem_cons.mp h
      rw [lowerAfter_cons, lowerIn, if_neg (by simpa using hsigma), hsame, ih hrest]
      rfl

end Text

/-! ### Cutting at a character -/

namespace Authority

section
variable {c : Char} {cs : List Char}

theorem bne_of_not_mem (h : c ∉ cs) : ∀ d ∈ cs, (d != c) = true :=
  fun _ hd => bne_iff_ne.mpr fun heq => h (heq ▸ hd)

theorem cut_of_not_mem (h : c ∉ cs) : cut c cs = (cs, none) := by
  rw [cut, List.dropWhile_eq_nil_iff.mpr (bne_of_not_mem h)]

theorem cut_append (h : c ∉ cs) (after : List Char) : cut c (cs ++ c :: after) = (cs, some after) := by
  have hdrop : (cs ++ c :: after).dropWhile (· != c) = c :: after := by
    rw [List.dropWhile_append_of_pos (bne_of_not_mem h), List.dropWhile_cons_of_neg (by simp)]
  rw [cut, hdrop]
  simp only
  rw [List.takeWhile_append_of_pos (bne_of_not_mem h), List.takeWhile_cons_of_neg (by simp), List.append_nil]

theorem afterLast_append {more : List Char} (h : c ∉ more) (cs : List Char) :
    afterLast c (cs ++ more) = afterLast c cs ++ more := by
  have hkept := bne_of_not_mem (mt List.mem_reverse.mp h)
  rw [afterLast, List.reverse_append, List.takeWhile_append_of_pos hkept, List.reverse_append, List.reverse_reverse,
    afterLast]

theorem mem_of_mem_afterLast {d : Char} (h : d ∈ afterLast c cs) : d ∈ cs :=
  List.mem_reverse.mp ((List.takeWhile_sublist _).mem (List.mem_reverse.mp h))

/-- Without an opening bracket the port follows the first colon. -/
theorem hostAndPort_plain (h : '[' ∉ afterLast '@' cs) :
    hostAndPort cs = ((cut ':' (afterLast '@' cs)).1, (cut ':' (afterLast '@' cs)).2.getD []) := by
  rw [hostAndPort, cut_of_not_mem h]

/-- With one that is not closed the host is all that follows it. -/
theorem hostAndPort_unclosed {before host : List Char} (h : afterLast '@' cs = before ++ '[' :: host)
    (hbefore : '[' ∉ before) (hhost : ']' ∉ host) : hostAndPort cs = (host, []) := by
  rw [hostAndPort, h, cut_append hbefore]
  simp only [cut_of_not_mem hhost]
  rfl

/-- With one that is closed nothing but a port follows the closing bracket. -/
theorem hostAndPort_closed {before host rest : List Char}
    (h : afterLast '@' cs = before ++ '[' :: (host ++ ']' :: rest)) (hbefore : '[' ∉ before) (hhost : ']' ∉ host)
    (htight : isTight cs = true) : rest = [] ∨ ∃ port, rest = ':' :: port ∧ hostAndPort cs = (host, port) := by
  rw [isTight, h, cut_append hbefore] at htight
  simp only [cut_append hhost, Option.getD_some, Bool.and_eq_true, Bool.or_eq_true, beq_iff_eq] at htight
  cases rest with
  | nil => exact .inl rfl
  | cons d port =>
      obtain rfl : d = ':' := by simpa using htight.2
      have hport : cut ':' (':' :: port) = ([], some port) := cut_append List.not_mem_nil port
      refine .inr ⟨port, rfl, ?_⟩
      rw [hostAndPort, h, cut_append hbefore]
      simp only [cut_append hhost, Option.getD_some, hport]

theorem isTight_of_faultless (h : fault? cs = none) (hopen : '[' ∈ cs) : isTight cs = true := by
  by_contra hloose
  rw [fault?, List.contains_iff_mem.mpr hopen] at h
  by_cases hclose : ']' ∈ cs
  · simp [hclose, hloose] at h
  · simp [hclose] at h

/-- Only digits number a port. -/
theorem not_mem_of_portNumber {port : List Char} {p : Option Nat} (h : portNumber port = .ok p) : ':' ∉ port := by
  intro hcolon
  rw [portNumber, if_neg (by rw [List.isEmpty_iff]; exact List.ne_nil_of_mem hcolon), if_pos] at h
  · cases h
  · rw [Bool.not_eq_true', List.all_eq_false]
    exact ⟨':', hcolon, by decide⟩

end

/-! ### Hosts that end with a name -/

/-- The letters of the schemes of hosts. -/
def schemeLetters : List Char := ['t', 'c', 'p', 'h']

theorem lowerChar_of_letter {c : Char} (h : c ∈ ':' :: schemeLetters) : c ≠ 'Σ' ∧ Text.lowerChar c = [c] := by
  simp only [schemeLetters, List.mem_cons, List.not_mem_nil, or_false] at h
  rcases h with rfl | rfl | rfl | rfl | rfl <;> decide +kernel

/-- What the names `tcp` and `http` have in common: some letters, and each its own lower case. -/
structure IsSchemeName (name : List Char) : Prop where
  letters : ∀ c ∈ name, c ∈ schemeLetters
  ne_nil : name ≠ []

theorem isSchemeName_tcp : IsSchemeName ['t', 'c', 'p'] := ⟨by simp [schemeLetters], by simp⟩

theorem isSchemeName_http : IsSchemeName ['h', 't', 't', 'p'] := ⟨by simp [schemeLetters], by simp⟩

section
variable {name : List Char}

namespace IsSchemeName

theorem mem_letters (hname : IsSchemeName name) {d : Char} (h : d ∈ name ++ [':']) : d ∈ ':' :: schemeLetters := by
  rcases List.mem_append.mp h with hmem | hcolon
  · exact List.mem_cons_of_mem _ (hname.letters d hmem)
  · exact List.mem_singleton.mp hcolon ▸ List.mem_cons_self

theorem delimiter_not_mem (hname : IsSchemeName name) {d : Char} (hd : d ∉ ':' :: schemeLetters) :
    d ∉ name ++ [':'] :=
  mt hname.mem_letters hd

theorem colon_not_mem (hname : IsSchemeName name) : ':' ∉ name :=
  fun hmem => absurd (hname.letters _ hmem) (by decide)

/-- A colon that stands before a name is not the one behind it. -/
theorem colon_mem (hname : IsSchemeName name) {rest port : List Char} (h : rest ++ (name ++ [':']) = ':' :: port) :
    ':' ∈ port := by
  cases rest with
  | nil =>
      obtain ⟨letter, letters, rfl⟩ := List.exists_cons_of_ne_nil hname.ne_nil
      obtain ⟨rfl, -⟩ := List.cons.inj h
      exact absurd List.mem_cons_self hname.colon_not_mem
  | cons d rest =>
      obtain ⟨-, rfl⟩ := List.cons.inj h
      exact List.mem_append_right _ (List.mem_append_right _ (List.mem_singleton.mpr rfl))

end IsSchemeName

section
variable {cs info : List Char} {p : Option Nat}

/-- Without brackets the colon behind the name begins an empty port. -/
theorem host_of_named_plain (hname : IsSchemeName name) (hinfo : afterLast '@' cs = info ++ (name ++ [':']))
    (hopen : '[' ∉ info) (hport : portNumber (hostAndPort cs).2 = .ok p) : (hostAndPort cs).1 = info ++ name := by
  have hcolon := not_mem_of_portNumber hport
  have hplain : '[' ∉ afterLast '@' cs := by
    rw [hinfo, List.mem_append, not_or]
    exact ⟨hopen, hname.delimiter_not_mem (by decide)⟩
  rw [hostAndPort_plain hplain, hinfo] at hcolon ⊢
  by_cases hfirst : ':' ∈ info
  · obtain ⟨host, rest, rfl, hhost⟩ := List.eq_append_cons_of_mem hfirst
    rw [List.append_assoc, List.cons_append, cut_append hhost] at hcolon
    exact absurd (List.mem_append_right _ (List.mem_append_right _ (List.mem_singleton.mpr rfl))) hcolon
  · have hhost : ':' ∉ info ++ name := by
      rw [List.mem_append, not_or]
      exact ⟨hfirst, hname.colon_not_mem⟩
    rw [← List.append_assoc, cut_append hhost]

/-- Behind a bracket the name and the colon are of the host: one that is closed would make the colon part of a port. -/
theorem host_of_named_bracketed (hname : IsSchemeName name) {before inside : List Char}
    (hinfo : afterLast '@' cs = before ++ '[' :: (inside ++ (name ++ [':']))) (hbefore : '[' ∉ before)
    (htight : isTight cs = true) (hport : portNumber (hostAndPort cs).2 = .ok p) :
    (hostAndPort cs).1 = inside ++ (name ++ [':']) := by
  by_cases hclose : ']' ∈ inside
  · obtain ⟨host, rest, rfl, hhost⟩ := List.eq_append_cons_of_mem hclose
    rw [List.append_assoc, List.cons_append] at hinfo
    rcases hostAndPort_closed hinfo hbefore hhost htight with hnil | ⟨port, hrest, hwritten⟩
    · simp at hnil
    · rw [hwritten] at hport
      exact absurd (hname.colon_mem hrest) (not_mem_of_portNumber hport)
  · have hhost : ']' ∉ inside ++ (name ++ [':']) := by
      rw [List.mem_append, not_or]
      exact ⟨hclose, hname.delimiter_not_mem (by decide)⟩
    rw [hostAndPort_unclosed hinfo hbefore hhost]

end

/-- An authority that ends with a name and a colon. If it gives a host and a port, the host ends with the name or with
both. -/
theorem host_of_named (hname : IsSchemeName name) {cs : List Char} {p : Option Nat}
    (hfault : fault? (cs ++ (name ++ [':'])) = none)
    (hport : portNumber (hostAndPort (cs ++ (name ++ [':']))).2 = .ok p) :
    ∃ host, (hostAndPort (cs ++ (name ++ [':']))).1 = host ++ name ∨
      (hostAndPort (cs ++ (name ++ [':']))).1 = host ++ (name ++ [':']) := by
  have hinfo := afterLast_append (hname.delimiter_not_mem (d := '@') (by decide)) cs
  by_cases hopen : '[' ∈ afterLast '@' cs
  · have htight := isTight_of_faultless hfault (List.mem_append_left _ (mem_of_mem_afterLast hopen))
    obtain ⟨before, inside, hsplit, hbefore⟩ := List.eq_append_cons_of_mem hopen
    rw [hsplit, List.append_assoc, List.cons_append] at hinfo
    exact ⟨inside, .inr (host_of_named_bracketed hname hinfo hbefore htight hport)⟩
  · exact ⟨_, .inl (host_of_named_plain hname hinfo hopen hport)⟩

/-- The name of a host ends with what the host is written to end with, if lower case leaves that alone. -/
theorem hostName_append {more : List Char} (h : ∀ c ∈ more, c ∈ ':' :: schemeLetters) (host : List Char) :
    ∃ front, (hostName (host ++ more)).toList = front ++ more := by
  have hzone : '%' ∉ more := fun hmem => absurd (h _ hmem) (by decide)
  rw [toList_hostName]
  by_cases hpercent : '%' ∈ host
  · obtain ⟨before, zone, rfl, hbefore⟩ := List.eq_append_cons_of_mem hpercent
    have hdrop : (before ++ '%' :: zone ++ more).dropWhile (· != '%') = '%' :: zone ++ more := by
      rw [List.append_assoc, List.dropWhile_append_of_pos (bne_of_not_mem hbefore), List.cons_append,
        List.dropWhile_cons_of_neg (by simp)]
    rw [hdrop, ← List.append_assoc]
    exact ⟨_, rfl⟩
  · have hall : ∀ c ∈ host ++ more, (c != '%') = true := by
      apply bne_of_not_mem
      rw [List.mem_append, not_or]
      exact ⟨hpercent, hzone⟩
    rw [List.takeWhile_eq_self_iff.mpr hall, List.dropWhile_eq_nil_iff.mpr hall, List.append_nil]
    obtain ⟨front, before, hlower⟩ := Text.lowerAfter_append [] host more
    exact ⟨front, by rw [hlower, Text.lowerAfter_eq_self fun c hc => lowerChar_of_letter (h c hc)]⟩

end

end Authority

namespace Address

/-! ### The first occurrence -/

section
variable {pattern replacement cs : List Char}

theorem replaceFirst_of_absent (h : ¬ pattern <:+: cs) : replaceFirst pattern replacement cs = cs := by
  induction cs with
  | nil =>
      rw [replaceFirst, if_neg]
      intro hempty
      exact h (List.isEmpty_iff.mp hempty ▸ List.nil_infix)
  | cons c cs ih =>
      rw [List.infix_cons_iff, not_or] at h
      rw [replaceFirst, if_neg (fun hprefix => h.1 (List.isPrefixOf_iff_prefix.mp hprefix)), ih h.2]

theorem replaceFirst_of_occurs (hne : pattern ≠ []) (h : pattern <:+: cs) (replacement : List Char) :
    ∃ before after,
      cs = before ++ (pattern ++ after) ∧ replaceFirst pattern replacement cs = before ++ (replacement ++ after) := by
  induction cs with
  | nil => exact absurd (List.infix_nil.mp h) hne
  | cons c cs ih =>
      by_cases hprefix : pattern <+: c :: cs
      · obtain ⟨after, hafter⟩ := hprefix
        refine ⟨[], after, hafter.symm, ?_⟩
        rw [replaceFirst, if_pos (List.isPrefixOf_iff_prefix.mpr ⟨after, hafter⟩), ← hafter, List.drop_left]
        rfl
      · have hrest := (List.infix_cons_iff.mp h).resolve_left hprefix
        obtain ⟨before, after, hcs, hreplaced⟩ := ih hrest
        refine ⟨c :: before, after, by rw [hcs]; rfl, ?_⟩
        rw [replaceFirst, if_neg (fun hp => hprefix (List.isPrefixOf_iff_prefix.mp hp)), hreplaced]
        rfl

/-- A text stays as it is when a pattern is taken out exactly if the pattern does not occur in it. -/
theorem replaceFirst_eq_self_iff (hne : pattern ≠ []) : replaceFirst pattern [] cs = cs ↔ ¬ pattern <:+: cs := by
  refine ⟨fun hsame hinfix => ?_, replaceFirst_of_absent⟩
  obtain ⟨before, after, hcs, hreplaced⟩ := replaceFirst_of_occurs hne hinfix []
  have hlength := congrArg List.length (hreplaced.symm.trans (hsame.trans hcs))
  have hpos := List.length_pos_iff.mpr hne
  simp only [List.length_append, List.length_nil] at hlength
  omega

end

/-! ### Paths -/

/-- An address text that begins with a scheme. -/
def hasScheme (cs : List Char) : Bool := namesHost cs || unixScheme.isPrefixOf cs

/-- What a path selects: its socket, or nothing for want of one. -/
def atPath (w : Surroundings) (path : String) : Except AddressFault Address :=
  if w.has path then .ok (.socket path) else .error (.missingSocket path)

section
variable {w : Surroundings}

theorem atPath_injective {path path' : String} (h : atPath w path = atPath w path') : path = path' := by
  unfold atPath at h
  split at h <;> split at h <;> simp at h <;> exact h

theorem choose_unix (w : Surroundings) (path : String) : choose w (.text ("unix://" ++ path)) = atPath w path :=
  ofChars_unix w path

/-- A text without a scheme selects the path that it spells exactly if `unix://` does not occur in it. -/
theorem choose_path_iff {path : String} (h : hasScheme path.toList = false) :
    choose w (.text path) = atPath w path ↔ ¬ unixScheme <:+: path.toList := by
  have hchosen : choose w (.text path) = atPath w (pathOf path.toList) := ofChars_socket (Bool.or_eq_false_iff.mp h).1
  have hpath : pathOf path.toList = path ↔ ¬ unixScheme <:+: path.toList := by
    rw [← replaceFirst_eq_self_iff (by decide), pathOf, ← String.toList_inj, String.toList_ofList]
  rw [hchosen, ← hpath]
  exact ⟨atPath_injective, congrArg _⟩

end

/-! ### Hosts -/

/-- A character that ends an authority. -/
def endsAuthority (c : Char) : Bool := c == '/' || c == '?' || c == '#'

/-- A character that counts in an authority. -/
def countsInAuthority (c : Char) : Bool := c != '\t' && c != '\n' && c != '\r'

theorem countsInAuthority_of_ends {c : Char} (h : endsAuthority c = true) : countsInAuthority c = true := by
  simp only [endsAuthority, Bool.or_eq_true, beq_iff_eq] at h
  rcases h with (rfl | rfl) | rfl <;> rfl

theorem ofRest_eq (cs : List Char) :
    Authority.ofRest cs = (cs.filter countsInAuthority).takeWhile fun c => !endsAuthority c := by
  rw [Authority.ofRest]
  congr 1
  funext c
  simp [endsAuthority, bne]

section
variable {before : List Char}

/-- What follows the end of an authority does not matter to it. -/
theorem ofRest_append_of_ends (h : before.any endsAuthority = true) (rest : List Char) :
    Authority.ofRest (before ++ rest) = Authority.ofRest before := by
  obtain ⟨c, hc, hends⟩ := List.any_eq_true.mp h
  have hmem : c ∈ before.filter countsInAuthority := List.mem_filter.mpr ⟨hc, countsInAuthority_of_ends hends⟩
  rw [ofRest_eq, ofRest_eq, List.filter_append, List.takeWhile_append, if_neg]
  intro hlength
  have hall := List.takeWhile_eq_self_iff.mp ((List.takeWhile_prefix _).eq_of_length hlength)
  have hstays := hall c hmem
  rw [hends] at hstays
  cases hstays

theorem ofRest_append_of_goes (h : before.any endsAuthority = false) (rest : List Char) :
    Authority.ofRest (before ++ rest) = before.filter countsInAuthority ++ Authority.ofRest rest := by
  rw [ofRest_eq, ofRest_eq, List.filter_append, List.takeWhile_append_of_pos]
  intro c hc
  rw [Bool.not_eq_true']
  exact Bool.eq_false_iff.mpr (List.any_eq_false.mp h c (List.mem_filter.mp hc).1)

/-- Nothing before a scheme in an authority begins another one. -/
theorem not_prefix_in_authority {c : Char} (h : (c :: before).any endsAuthority = false) (after : List Char) :
    ¬ tcpScheme <+: c :: (before ++ (tcpScheme ++ after)) := by
  rintro ⟨more, hmore⟩
  -- its first slash is the fifth character, and none of the four before it is like the first one
  rcases before with _ | ⟨c₁, _ | ⟨c₂, _ | ⟨c₃, _ | ⟨c₄, before⟩⟩⟩⟩
  case cons.cons.cons.cons =>
    simp only [tcpScheme, List.cons_append, List.cons.injEq] at hmore
    obtain ⟨-, -, -, -, rfl, -⟩ := hmore
    simp [endsAuthority] at h
  all_goals simp [tcpScheme] at hmore

theorem replaceFirst_in_authority (h : before.any endsAuthority = false) (after : List Char) :
    replaceFirst tcpScheme httpScheme (before ++ (tcpScheme ++ after)) = before ++ (httpScheme ++ after) := by
  induction before with
  | nil => exact replaceFirst_append after
  | cons c before ih =>
      have hno := mt List.isPrefixOf_iff_prefix.mp (not_prefix_in_authority h after)
      rw [List.any_cons, Bool.or_eq_false_iff] at h
      rw [List.cons_append, replaceFirst, if_neg hno, ih h.2]
      rfl

end

/-- A text with `tcp://` in its authority. -/
def SchemeInAuthority (cs : List Char) : Prop :=
  ∃ before after, cs = before ++ (tcpScheme ++ after) ∧ before.any endsAuthority = false

/-- Such an authority is written with the name of the scheme and a colon at its end. -/
theorem SchemeInAuthority.suffix {cs : List Char} (h : SchemeInAuthority cs) :
    ['t', 'c', 'p', ':'] <:+ cs.takeWhile fun c => !endsAuthority c := by
  obtain ⟨before, after, rfl, hgoes⟩ := h
  rw [List.takeWhile_append_of_pos fun c hc => by simpa using List.any_eq_false.mp hgoes c hc]
  exact ⟨before, rfl⟩

section
variable {w : Surroundings} {rest : List Char} {a : Address}

theorem ofChars_tcp (w : Surroundings) (rest : List Char) :
    ofChars w (tcpScheme ++ rest) = ofAuthority (Authority.ofRest rest) := by
  have hscheme : namesHost (tcpScheme ++ rest) = true := rfl
  have hreplaced : replaceFirst tcpScheme httpScheme (tcpScheme ++ rest) = httpScheme ++ rest := replaceFirst_append rest
  rw [ofChars_host hscheme, authorityOf, hreplaced, List.drop_left]

theorem ofChars_http (w : Surroundings) (rest : List Char) :
    ofChars w (httpScheme ++ rest) = ofAuthority (Authority.ofRest (replaceFirst tcpScheme httpScheme rest)) := by
  have hscheme : namesHost (httpScheme ++ rest) = true := rfl
  have hreplaced : replaceFirst tcpScheme httpScheme (httpScheme ++ rest) =
      httpScheme ++ replaceFirst tcpScheme httpScheme rest := rfl
  rw [ofChars_host hscheme, authorityOf, hreplaced, List.drop_left]

/-- Without a scheme in the authority both schemes in front of it mean the same. -/
theorem ofChars_tcp_eq_http (h : ¬ SchemeInAuthority rest) :
    ofChars w (tcpScheme ++ rest) = ofChars w (httpScheme ++ rest) := by
  rw [ofChars_tcp, ofChars_http]
  by_cases hinfix : tcpScheme <:+: rest
  · obtain ⟨before, after, hrest, hreplaced⟩ := replaceFirst_of_occurs (by decide) hinfix httpScheme
    have hends : before.any endsAuthority = true := by
      rw [← Bool.not_eq_false]
      exact fun hgoes => h ⟨before, after, hrest, hgoes⟩
    rw [hreplaced, hrest, ofRest_append_of_ends hends, ofRest_append_of_ends hends]
  · rw [replaceFirst_of_absent hinfix]

/-- A host whose name ends with a text, or with that and a colon. -/
def HostEndsWith (ending : List Char) (a : Address) : Prop :=
  ∃ host port front, a = .host host port ∧ (host.toList = front ++ ending ∨ host.toList = front ++ (ending ++ [':']))

theorem hostEndsWith_of_named {name : List Char} (hname : Authority.IsSchemeName name) {cs : List Char}
    (h : ofAuthority (cs ++ (name ++ [':'])) = .ok a) : HostEndsWith name a := by
  obtain ⟨hfault, p, hport, rfl⟩ := ofAuthority_eq_ok.mp h
  obtain ⟨host, hhost | hhost⟩ := Authority.host_of_named hname hfault hport
  · have hletters : ∀ c ∈ name, c ∈ ':' :: Authority.schemeLetters :=
      fun c hc => hname.mem_letters (List.mem_append_left _ hc)
    obtain ⟨front, hfront⟩ := Authority.hostName_append hletters host
    refine ⟨_, _, front, rfl, .inl ?_⟩
    rw [hhost, nameOf, if_neg (by simp [hname.ne_nil]), hfront]
  · obtain ⟨front, hfront⟩ := Authority.hostName_append (fun _ => hname.mem_letters) host
    refine ⟨_, _, front, rfl, .inr ?_⟩
    rw [hhost, nameOf, if_neg (by simp), hfront]

/-- No host ends with the names of both schemes. -/
theorem not_hostEndsWith_both (htcp : HostEndsWith ['t', 'c', 'p'] a) (hhttp : HostEndsWith ['h', 't', 't', 'p'] a) :
    False := by
  obtain ⟨host, port, front, rfl, hhost⟩ := htcp
  obtain ⟨host', port', front', heq, hhost'⟩ := hhttp
  obtain ⟨rfl, -⟩ := Address.host.inj heq
  rcases hhost with hhost | hhost <;> rcases hhost' with hhost' | hhost' <;>
    simpa using congrArg List.reverse (hhost.symm.trans hhost')

/-- What the two schemes give in front of a text that has a scheme in its authority: hosts with different names. -/
theorem hosts_of_schemeInAuthority (h : SchemeInAuthority rest) :
    (∀ a, ofChars w (tcpScheme ++ rest) = .ok a → HostEndsWith ['t', 'c', 'p'] a) ∧
      ∀ a, ofChars w (httpScheme ++ rest) = .ok a → HostEndsWith ['h', 't', 't', 'p'] a := by
  obtain ⟨before, after, rfl, hgoes⟩ := h
  have htcp : Authority.ofRest (tcpScheme ++ after) = ['t', 'c', 'p'] ++ [':'] := rfl
  have hhttp : Authority.ofRest (httpScheme ++ after) = ['h', 't', 't', 'p'] ++ [':'] := rfl
  rw [ofChars_tcp, ofChars_http, replaceFirst_in_authority hgoes, ofRest_append_of_goes hgoes,
    ofRest_append_of_goes hgoes, htcp, hhttp]
  exact ⟨fun _ => hostEndsWith_of_named Authority.isSchemeName_tcp,
    fun _ => hostEndsWith_of_named Authority.isSchemeName_http⟩

/-- Two outcomes that give one host and port, or both find fault with an authority. -/
def SameHost (o o' : Except AddressFault Address) : Prop :=
  (∃ host port, o = .ok (.host host port) ∧ o' = .ok (.host host port)) ∨
    ((∃ f, o = .error (.authority f)) ∧ ∃ f, o' = .error (.authority f))

theorem ofAuthority_cases (cs : List Char) :
    (∃ host port, ofAuthority cs = .ok (.host host port)) ∨ ∃ f, ofAuthority cs = .error (.authority f) := by
  cases hcs : ofAuthority cs with
  | ok a =>
      obtain ⟨-, p, -, rfl⟩ := ofAuthority_eq_ok.mp hcs
      exact .inl ⟨_, _, rfl⟩
  | error f =>
      obtain ⟨g, rfl⟩ := ofAuthority_eq_error hcs
      exact .inr ⟨g, rfl⟩

/-- **The two schemes of hosts mean the same unless `tcp://` stands in the authority and one of them gives a host.** -/
theorem sameHost_iff : SameHost (ofChars w (tcpScheme ++ rest)) (ofChars w (httpScheme ++ rest)) ↔
    ¬ (SchemeInAuthority rest ∧
      ((∃ a, ofChars w (tcpScheme ++ rest) = .ok a) ∨ ∃ a, ofChars w (httpScheme ++ rest) = .ok a)) := by
  have htcp := ofAuthority_cases (Authority.ofRest rest)
  have hhttp := ofAuthority_cases (Authority.ofRest (replaceFirst tcpScheme httpScheme rest))
  rw [← ofChars_tcp w] at htcp
  rw [← ofChars_http w] at hhttp
  constructor
  · rintro hsame ⟨hscheme, hgives⟩
    obtain ⟨htcpEnds, hhttpEnds⟩ := hosts_of_schemeInAuthority (w := w) hscheme
    rcases hsame with ⟨host, port, ho, ho'⟩ | ⟨⟨f, ho⟩, f', ho'⟩
    · exact not_hostEndsWith_both (htcpEnds _ ho) (hhttpEnds _ ho')
    · rcases hgives with ⟨a, ha⟩ | ⟨a, ha⟩
      · rw [ho] at ha
        cases ha
      · rw [ho'] at ha
        cases ha
  · intro hno
    by_cases hscheme : SchemeInAuthority rest
    · have hnone := not_or.mp fun hgives => hno ⟨hscheme, hgives⟩
      refine .inr ⟨htcp.resolve_left ?_, hhttp.resolve_left ?_⟩
      · exact fun ⟨_, _, ho⟩ => hnone.1 ⟨_, ho⟩
      · exact fun ⟨_, _, ho⟩ => hnone.2 ⟨_, ho⟩
    · rw [← ofChars_tcp_eq_http hscheme]
      rcases htcp with ⟨host, port, ho⟩ | ⟨f, ho⟩
      · exact .inl ⟨host, port, ho, ho⟩
      · exact .inr ⟨⟨f, ho⟩, f, ho⟩

end

/-! ### Addresses with and without schemes -/

/-- **Of an address text one scheme is interpreted, wherever it stands.** What follows a leading `unix://` is the path
that is selected. A text without a scheme in front selects the path that it spells if and only if `unix://` does not
occur in it. A leading `tcp://` and a leading `http://` give one host and port, or both none, if and only if no further
`tcp://` stands in the authority of a host that one of them gives. -/
theorem schemes_read (w : Surroundings) :
    (∀ path : String, choose w (.text ("unix://" ++ path)) = atPath w path) ∧
    (∀ path : String, hasScheme path.toList = false →
      (choose w (.text path) = atPath w path ↔ ¬ unixScheme <:+: path.toList)) ∧
    ∀ rest : String, SameHost (choose w (.text ("tcp://" ++ rest))) (choose w (.text ("http://" ++ rest))) ↔
      ¬ (SchemeInAuthority rest.toList ∧ ((∃ a, choose w (.text ("tcp://" ++ rest)) = .ok a) ∨
        ∃ a, choose w (.text ("http://" ++ rest)) = .ok a)) := by
  refine ⟨choose_unix w, fun path => choose_path_iff, fun rest => ?_⟩
  have htcp : choose w (.text ("tcp://" ++ rest)) = ofChars w (tcpScheme ++ rest.toList) :=
    congrArg (ofChars w) String.toList_append
  have hhttp : choose w (.text ("http://" ++ rest)) = ofChars w (httpScheme ++ rest.toList) :=
    congrArg (ofChars w) String.toList_append
  rw [htcp, hhttp]
  exact sameHost_iff

theorem schemes_read_slashedHost :
    let w : Surroundings := { paths := ["/run/d.sock"] }
    hasScheme "/run/d.sock".toList = false ∧ choose w (.text "/run/d.sock") = .ok (.socket "/run/d.sock") ∧
      SameHost (choose w (.text "tcp://h:1/tcp://i")) (choose w (.text "http://h:1/tcp://i")) := by
  intro w
  have hscheme : hasScheme "/run/d.sock".toList = false := rfl
  have hinfix : ¬ unixScheme <:+: "/run/d.sock".toList := by decide +kernel
  refine ⟨hscheme, ((schemes_read w).2.1 _ hscheme).mpr hinfix, ((schemes_read w).2.2 "h:1/tcp://i").mpr ?_⟩
  rintro ⟨hrest, -⟩
  exact absurd hrest.suffix (by decide +kernel)

/-- A path with `unix://` further inside is not selected though it exists, and with `tcp://` behind either scheme of
hosts the two name different hosts. -/
theorem choose_schemeInside :
    let w : Surroundings := { paths := ["/run/unix://d"] }
    (hasScheme "/run/unix://d".toList = false ∧ atPath w "/run/unix://d" = .ok (.socket "/run/unix://d") ∧
      choose w (.text "/run/unix://d") = .error (.missingSocket "/run/d")) ∧
    choose w (.text "tcp://tcp://h") = .ok (.host "tcp" 2375) ∧
      choose w (.text "http://tcp://h") = .ok (.host "http" 2375) := by
  intro w
  refine ⟨⟨rfl, rfl, rfl⟩, rfl, rfl⟩

end Address
end DaemonClient
