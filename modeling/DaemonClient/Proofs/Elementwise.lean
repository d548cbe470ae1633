import DaemonClient.Proofs.JsonPrefix
import DaemonClient.Proofs.Variants

/-! A list of networks is decoded network by network (`decodeList_elementwise`): the body of the list is read as the
array of what its items are read as, each item is checked like a report about one network, and the problems of all items
are reported, each with the index of its item. -/

namespace DaemonClient
open Outcome

/-! ### The body of a list -/

namespace Json

/-- Octets of texts in brackets, with commas between them. -/
def arrayOctets (bodies : List (List UInt8)) : List UInt8 := 0x5B :: ([0x2C].intercalate bodies ++ [0x5D])

theorem flatMap_intercalate {α β : Type} (f : α → List β) (separator : List α) (xs : List (List α)) :
    (separator.intercalate xs).flatMap f = (separator.flatMap f).intercalate (xs.map (·.flatMap f)) := by
  induction xs with
  | nil => rfl
  | cons x xs ih =>
      cases xs with
      | nil => simp only [List.map_cons, List.map_nil, List.intercalate_singleton]
      | cons x' xs =>
          simp only [List.map_cons, List.intercalate_cons_cons, List.flatMap_append] at ih ⊢
          rw [ih]

theorem encode_joined (texts : List (List Char)) :
    Utf8.encode (String.ofList ('[' :: ([','].intercalate texts ++ [']']))) =
      arrayOctets (texts.map (·.flatMap String.utf8EncodeChar)) := by
  rw [Utf8.encode, String.toList_ofList, List.flatMap_cons, List.flatMap_append, flatMap_intercalate]
  rfl

end Json

namespace Check

theorem document_eq_ok {bs : List UInt8} {j : Json} :
    document bs = .ok j ↔ ∃ cs : List Char, bs = cs.flatMap String.utf8EncodeChar ∧
      Json.parse Json.bodyLimits cs = .ok j := by
  constructor
  · intro h
    unfold document at h
    split at h
    · rename_i s hs
      split at h
      · rename_i hparse
        obtain rfl := Except.ok.inj h
        exact ⟨s.toList, Utf8.decode_eq_ok.mp hs, hparse⟩
      · cases h
    · cases h
  · rintro ⟨cs, rfl, hparse⟩
    have hdecode : Utf8.decode (cs.flatMap String.utf8EncodeChar) = .ok (String.ofList cs) :=
      Utf8.decode_eq_ok.mpr (by rw [Utf8.encode, String.toList_ofList])
    rw [document, hdecode]
    simp only [Json.parseBody, String.toList_ofList, hparse]

/-- The array of bodies is read as the array of what they are read as. -/
theorem document_array {bodies : List (List UInt8)} {js : List Json}
    (h : List.Forall₂ (fun b j => document b = .ok j ∧ j.nesting < Json.bodyDepth) bodies js) :
    document (Json.arrayOctets bodies) = .ok (.array js) := by
  obtain ⟨texts, rfl, htexts⟩ : ∃ texts : List (List Char), bodies = texts.map (·.flatMap String.utf8EncodeChar) ∧
      List.Forall₂ (fun cs j => Json.parse Json.bodyLimits cs = .ok j ∧ j.nesting < Json.bodyDepth)
        texts js := by
    induction h with
    | nil => exact ⟨[], rfl, .nil⟩
    | cons hj _ ih =>
        obtain ⟨cs, rfl, hparse⟩ := document_eq_ok.mp hj.1
        obtain ⟨texts, rfl, htexts⟩ := ih
        exact ⟨cs :: texts, rfl, .cons ⟨hparse, hj.2⟩ htexts⟩
  rw [← Json.encode_joined, Utf8.encode]
  exact document_eq_ok.mpr ⟨_, rfl, String.toList_ofList ▸ Json.parse_array (by decide) htexts⟩

/-! ### The check of a list -/

/-- All problems of items are reported, each with the index of its item before its own way. -/
theorem problems_items (check : Value → Check Value) (i : Nat) (xs : List Value) :
    (items check i xs).problems = (xs.zipIdx i).flatMap fun x => (under (.index x.2) (check x.1)).problems := by
  induction xs generalizing i with
  | nil => rfl
  | cons x xs ih => rw [items, problems_both, ih, List.zipIdx_cons, List.flatMap_cons]

end Check

/-- A problem of an item, as the check of the list reports it. -/
def Problem.ofItem (i : Nat) (p : Problem) : Problem := ⟨p.kind, .index i :: p.path⟩

theorem Check.problems_under {α : Type} (l : Location) (x : Check α) :
    (under l x).problems = x.problems.map fun p => ⟨p.kind, l :: p.path⟩ := by
  cases x <;> rfl

/-- A listed network and a network by itself are checked alike: the same fields, or the same problems. -/
theorem Shape.check_networks (form : TextForm) (j : Json) :
    ∃ x : Check (List (String × Value)),
      check form networkReport j.plain = (fun fs => .record .networkReport form fs []) <$> x ∧
      check form listedNetwork j.plain = (fun fs => .record .listedNetwork form fs []) <$> x := by
  cases j with
  | object ms =>
      rw [Json.plain_object]
      exact ⟨_, rfl, rfl⟩
  | array js =>
      rw [Json.plain_array]
      exact ⟨.error [⟨.notRecord, []⟩], rfl, rfl⟩
  | _ => exact ⟨.error [⟨.notRecord, []⟩], rfl, rfl⟩

/-! ### Lists of networks -/

namespace Reply

/-- The problems that keep a body from being decoded. -/
def problems : Except CallError Value → List Problem
  | .error (.undecodable _ ps _) => ps
  | _ => []

/-- A report about one network with some fields. -/
abbrev ofNetwork (fs : List (String × Value)) : Value := .record .networkReport .characters fs []

/-- A network of a list with some fields. -/
abbrev ofListed (fs : List (String × Value)) : Value := .record .listedNetwork .characters fs []

/-- An item of a list is decoded where it is decoded by itself, to the same fields, and else has the same problems. -/
theorem check_item {r : Reply} {j : Json} (h : Check.document r.body = .ok j) :
    (∀ w, Shape.check .characters .listedNetwork j.plain = .ok w ↔
      ∃ fs, r.decodeRecord .networkReport = .ok (ofNetwork fs) ∧ w = ofListed fs) ∧
    (Shape.check .characters .listedNetwork j.plain).problems = problems (r.decodeRecord .networkReport) ∧
    ∀ v, r.decodeRecord .networkReport = .ok v → ∃ fs, v = ofNetwork fs := by
  obtain ⟨x, hnetwork, hlisted⟩ := Shape.check_networks .characters j
  rw [decodeRecord_of_document rfl h, hlisted, show RecordKind.networkReport.shape = .networkReport from rfl, hnetwork]
  cases x with
  | ok fs => simp [problems, Check.problems, eq_comm]
  | error ps => simp [problems, Check.problems]

/-- How a list of networks is decoded whose items are bodies of reports about one network. -/
structure Elementwise (bodies : List (List UInt8)) (network : List UInt8 → Except CallError Value)
    (list : Except CallError Value) (body : List UInt8) : Prop where
  /-- The list is decoded exactly when all items are. -/
  succeeds : (∃ v, list = .ok v) ↔ ∀ b ∈ bodies, ∃ v, network b = .ok v
  /-- There is one record for each item, in their order and with the fields of the item's report. -/
  records : ∀ {v}, list = .ok v →
    ∃ vs, v = .list vs ∧ List.Forall₂ (fun b w => ∃ fs, network b = .ok (ofNetwork fs) ∧ w = ofListed fs) bodies vs
  /-- A list that is not decoded has the problems of all items, each with the index of its item. -/
  refused : ∀ {e}, list = .error e → e = .undecodable (some "List")
    (bodies.zipIdx.flatMap fun b => (problems (network b.1)).map (.ofItem b.2)) body

section
variable {bodies : List (List UInt8)} {js : List Json} {r : Reply}

/-- The check of items, told by what is made of each body by itself. -/
theorem check_items (h : List.Forall₂ (fun b j => Check.document b = .ok j ∧ j.nesting < Json.bodyDepth) bodies js)
    (i : Nat) :
    let checked := Check.items (Shape.check .characters .listedNetwork) i (js.map Json.plain)
    (∀ vs, checked = .ok vs ↔ List.Forall₂ (fun b w => ∃ fs,
      decodeRecord .networkReport { r with body := b } = .ok (ofNetwork fs) ∧ w = ofListed fs) bodies vs) ∧
    checked.problems = (bodies.zipIdx i).flatMap fun b =>
      (problems (decodeRecord .networkReport { r with body := b.1 })).map (.ofItem b.2) := by
  intro checked
  constructor
  · intro vs
    rw [Check.items_eq_ok, List.forall₂_map_left_iff]
    induction h generalizing vs with
    | nil => simp only [List.forall₂_nil_left_iff]
    | @cons b j bodies js hj _ ih =>
        have hitem := (check_item (r := { r with body := b }) hj.1).1
        simp only [List.forall₂_cons_left_iff, ih, hitem]
  · rw [Check.problems_items]
    induction h generalizing i with
    | nil => rfl
    | @cons b j bodies js hj _ ih =>
        have hitem := (check_item (r := { r with body := b }) hj.1).2.1
        rw [List.map_cons, List.zipIdx_cons, List.zipIdx_cons, List.flatMap_cons, List.flatMap_cons, ih,
          Check.problems_under, hitem]
        rfl

/-- **A list of networks is decoded network by network.** -/
theorem decodeList_elementwise (h : ∀ b ∈ bodies, ∃ j, Check.document b = .ok j ∧ j.nesting < Json.bodyDepth)
    (hbody : r.body = Json.arrayOctets bodies) :
    Elementwise bodies (fun b => decodeRecord .networkReport { r with body := b }) (r.decodeList .listedNetwork)
      r.body := by
  obtain ⟨js, hjs⟩ := exists_forall₂_iff.mpr h
  obtain ⟨hok, hproblems⟩ := check_items (r := r) hjs 0
  have hlist : r.decodeList .listedNetwork = (Value.list <$> Check.items (Shape.check .characters .listedNetwork) 0
      (js.map Json.plain)).mapError fun ps => .undecodable (some "List") ps r.body := by
    rw [decodeList_of_document rfl (hbody ▸ Check.document_array hjs), Json.plain_array]
    rfl
  have hsucceeds : (∃ vs, Check.items (Shape.check .characters .listedNetwork) 0 (js.map Json.plain) = .ok vs) ↔
      ∀ b ∈ bodies, ∃ v, decodeRecord .networkReport { r with body := b } = .ok v := by
    simp only [hok, exists_forall₂_iff]
    refine forall₂_congr fun b hb => ⟨fun ⟨w, fs, hfs, _⟩ => ⟨_, hfs⟩, fun ⟨v, hv⟩ => ?_⟩
    obtain ⟨j, hj, -⟩ := h b hb
    obtain ⟨fs, rfl⟩ := (check_item (r := { r with body := b }) hj).2.2 v hv
    exact ⟨_, fs, hv, rfl⟩
  rw [hlist]
  refine ⟨?_, fun {v} hv => ?_, fun {e} he => ?_⟩
  · rw [← hsucceeds]
    simp only [mapError_eq_ok, map_eq_ok]
    exact ⟨fun ⟨_, vs, hvs, _⟩ => ⟨vs, hvs⟩, fun ⟨vs, hvs⟩ => ⟨_, vs, hvs, rfl⟩⟩
  · obtain ⟨vs, hvs, rfl⟩ := map_eq_ok.mp (mapError_eq_ok.mp hv)
    exact ⟨vs, rfl, (hok vs).mp hvs⟩
  · obtain ⟨ps, hps, rfl⟩ := mapError_eq_error.mp he
    rw [← hproblems, map_eq_error.mp hps]
    rfl

end

/-- A network with what has to be given. -/
def namedNetwork : Json := .object [("Name", .text "n"), ("Id", .text "1")]

/-- A network without a name and with an id that is no text. -/
def namelessNetwork : Json := .object [("Id", .bool true)]

theorem decodeList_elementwise_namelessNetwork :
    let bodies := [Utf8.encode namedNetwork.render, Utf8.encode namelessNetwork.render]
    let r : Reply := ⟨200, Json.arrayOctets bodies, []⟩
    (∀ b ∈ bodies, ∃ j, Check.document b = .ok j ∧ j.nesting < Json.bodyDepth) ∧ r.body = Json.arrayOctets bodies ∧
      Elementwise bodies (fun b => decodeRecord .networkReport { r with body := b }) (r.decodeList .listedNetwork)
        r.body := by
  intro bodies r
  have hbodies : ∀ b ∈ bodies, ∃ j, Check.document b = .ok j ∧ j.nesting < Json.bodyDepth := by
    intro b hb
    rcases List.mem_pair.mp hb with rfl | rfl
    · exact ⟨namedNetwork, Check.document_render (by decide), by decide⟩
    · exact ⟨namelessNetwork, Check.document_render (by decide), by decide⟩
  exact ⟨hbodies, rfl, decodeList_elementwise hbodies rfl⟩

end Reply
end DaemonClient
