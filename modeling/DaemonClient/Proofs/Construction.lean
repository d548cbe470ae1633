import DaemonClient.Proofs.Addresses
import DaemonClient.Proofs.Checked
import DaemonClient.Proofs.Loading

/-! Clients that are made of settings. Two settings are used as texts, the address and the version, and loading looks at
neither. Settings make a client, or none for want of a daemon at their address, unless a settings file gives one of the
two as something else than a text (`client_of_settings`). The address of a client follows the order of the layers, and
that of the platform comes last (`address_chosen`). -/

namespace DaemonClient
open Outcome

/-! ### Members that are no texts -/

theorem Entries.insert_ne_nil (es : Entries) (k v : Value) : es.insert k v ≠ [] := by
  cases es with
  | nil => exact List.cons_ne_nil _ _
  | cons e es =>
      rw [Entries.insert]
      split <;> exact List.cons_ne_nil _ _

/-- No entry is lost so that none is left. -/
theorem Entries.ofList_ne_nil {pairs : List (Value × Value)} (h : pairs ≠ []) : Entries.ofList pairs ≠ [] := by
  rw [Entries.ofList, ← List.dropLast_append_getLast h, List.foldl_append]
  exact insert_ne_nil _ _ _

namespace Json

/-- A document that counts as given and is no text. -/
inductive Untextual : Json → Prop
  | yes : Untextual (.bool true)
  | int {n : Int} (h : n ≠ 0) : Untextual (.int n)
  | float {x : Binary64} (h : x.isZero = false) : Untextual (.float x)
  | array {items : List Json} (h : items ≠ []) : Untextual (.array items)
  | object {members : List (String × Json)} (h : members ≠ []) : Untextual (.object members)

/-- What counts as given is a text that is not empty, or no text. -/
theorem truthy_plain {j : Json} : j.plain.truthy = true ↔ (∃ t, j = .text t ∧ t ≠ "") ∨ j.Untextual := by
  constructor
  · intro h
    cases j with
    | null => cases h
    | bool b =>
        obtain rfl : b = true := h
        exact .inr .yes
    | int n => exact .inr (.int (bne_iff_ne.mp h))
    | float x => exact .inr (.float ((Bool.not_eq_true' _).mp h))
    | text s => exact .inl ⟨s, rfl, bne_iff_ne.mp h⟩
    | array items =>
        refine .inr (.array fun hnil => ?_)
        rw [hnil] at h
        cases h
    | object members =>
        refine .inr (.object fun hnil => ?_)
        rw [hnil] at h
        cases h
  · rintro (⟨t, rfl, hne⟩ | h)
    · exact bne_iff_ne.mpr hne
    · cases h with
      | yes => rfl
      | int h => exact bne_iff_ne.mpr h
      | float h => exact (Bool.not_eq_true' _).mpr h
      | array h =>
          rw [plain_array, Value.truthy, Bool.not_eq_true', List.isEmpty_eq_false_iff]
          exact fun hnil => h (List.map_eq_nil_iff.mp hnil)
      | object h =>
          rw [plain_object, Value.truthy, Bool.not_eq_true', List.isEmpty_eq_false_iff]
          exact Entries.ofList_ne_nil fun hnil => h (List.map_eq_nil_iff.mp hnil)

end Json

namespace Settings

/-! ### Settings that are used as texts -/

section
variable {path : String} {file : File} {members : List (String × Json)} {warnings : List LogLine}
variable {environment : List (String × String)} {key : String}

/-- What the variable holds that goes before a setting, if it is set and not empty. -/
def setBy? (environment : List (String × String)) (key : String) : Option String :=
  (overriding? key).bind (provided? environment)

/-- The file gives a setting as something else than a text, and no variable goes before it. -/
def Mistyped (members : List (String × Json)) (environment : List (String × String)) (key : String) : Prop :=
  setBy? environment key = none ∧ ∃ j, members.reverse.lookup key = some j ∧ j.Untextual

/-- What a setting comes to that is empty by default. -/
inductive Comes (members : List (String × Json)) (environment : List (String × String)) (key : String) : Value → Prop
  | setting {t : String} (h : setBy? environment key = some t) : Comes members environment key (.text t)
  | text {t : String} (hset : setBy? environment key = none) (h : members.reverse.lookup key = some (.text t))
      (hne : t ≠ "") : Comes members environment key (.text t)
  | other {j : Json} (hset : setBy? environment key = none) (h : members.reverse.lookup key = some j)
      (hj : j.Untextual) : Comes members environment key j.plain
  | nothing (hset : setBy? environment key = none)
      (h : ∀ j, members.reverse.lookup key = some j → j.plain.truthy = false) : Comes members environment key .null

/-- A setting that is empty by default, as a client takes it. -/
def settled (members : List (String × Json)) (environment : List (String × String)) (key : String) : Value :=
  match setBy? environment key, members.reverse.lookup key with
  | some t, _ => .text t
  | none, some j => if j.plain.truthy then j.plain else .null
  | none, none => .null

theorem comes_settled (members : List (String × Json)) (environment : List (String × String)) (key : String) :
    Comes members environment key (settled members environment key) := by
  rw [settled]
  cases hset : setBy? environment key with
  | some t => exact .setting hset
  | none =>
      cases hmember : members.reverse.lookup key with
      | none => exact .nothing hset fun j hj => by rw [hmember] at hj; cases hj
      | some j =>
          by_cases htruthy : j.plain.truthy = true
          · simp only [if_pos htruthy]
            rcases Json.truthy_plain.mp htruthy with ⟨t, rfl, hne⟩ | hj
            · exact .text hset hmember hne
            · exact .other hset hmember hj
          · simp only [if_neg htruthy]
            refine .nothing hset fun i hi => ?_
            obtain rfl := Option.some.inj (hmember.symm.trans hi)
            exact Bool.not_eq_true _ ▸ htruthy

theorem Comes.eq_settled {v : Value} (h : Comes members environment key v) : v = settled members environment key := by
  cases h with
  | setting hset => rw [settled, hset]
  | text hset hmember hne =>
      rw [settled, hset, hmember]
      exact (if_pos (Json.truthy_plain.mpr (.inl ⟨_, rfl, hne⟩))).symm
  | other hset hmember hj =>
      rw [settled, hset, hmember]
      exact (if_pos (Json.truthy_plain.mpr (.inr hj))).symm
  | nothing hset hfalsy =>
      rw [settled, hset]
      cases hmember : members.reverse.lookup key with
      | none => rfl
      | some j => exact (if_neg (by rw [hfalsy j hmember]; exact Bool.false_ne_true)).symm

/-- A setting comes to one value. -/
theorem Comes.unique {v v' : Value} (h : Comes members environment key v) (h' : Comes members environment key v') :
    v = v' := h.eq_settled.trans h'.eq_settled.symm

/-- Only the timeout is settled after the layers are merged. -/
theorem get?_settleTimeout (s : SettingMap) (log : List LogLine) (hkey : key ≠ "timeout") :
    (settleTimeout s log).settings.get? key = s.get? key := by
  rw [settleTimeout]
  cases readTimeout ((s.get? "timeout").getD .null) with
  | read n => rw [Named.get?_put, if_neg hkey]
  | rejected => rw [Named.get?_put, if_neg hkey]
  | infinite => rfl

theorem setBy?_ne_empty {t : String} (h : setBy? environment key = some t) : t ≠ "" := by
  obtain ⟨name, -, hprovided⟩ := Option.bind_eq_some_iff.mp h
  simpa using (Option.filter_eq_some_iff.mp hprovided).2

/-- What loading leaves under a setting that is empty by default is what it comes to. -/
theorem comes_given [Machine] (h : file.Gives path members warnings) (environment : List (String × String))
    (key : String) (hdefault : defaults.get? key = some (.text "")) :
    Comes members environment key (given (load path file environment).settings key) := by
  have hkey : key ≠ "timeout" := by
    rintro rfl
    cases hdefault
  have hlayers : given? members environment key = ((setBy? environment key).map Value.text).or
      (((members.reverse.lookup key).map Json.plain).or (some (.text ""))) := by
    rw [given?, base, hdefault]
    rfl
  obtain ⟨s, log, hload, hs, -⟩ := load_of_gives h environment
  have hgiven : given (load path file environment).settings key = settled members environment key := by
    rw [given, hload, get?_settleTimeout s log hkey, hs, hlayers, settled]
    cases hset : setBy? environment key with
    | some t => exact if_pos (bne_iff_ne.mpr (setBy?_ne_empty hset))
    | none => cases members.reverse.lookup key <;> rfl
  rw [hgiven]
  exact comes_settled members environment key

/-- A setting is left out or a text, as long as the file does not give something else. -/
theorem Comes.text_iff {v : Value} (h : Comes members environment key v) :
    (v = .null ∨ ∃ t, v = .text t) ↔ ¬ Mistyped members environment key := by
  cases h with
  | @setting t hset =>
      refine ⟨fun _ hmistyped => ?_, fun _ => .inr ⟨t, rfl⟩⟩
      rw [hmistyped.1] at hset
      cases hset
  | @text t _ hmember hne =>
      refine ⟨fun _ hmistyped => ?_, fun _ => .inr ⟨t, rfl⟩⟩
      obtain ⟨-, j, hj, huntextual⟩ := hmistyped
      obtain rfl := Option.some.inj (hmember.symm.trans hj)
      cases huntextual
  | other hset hmember hj =>
      refine ⟨fun htext => ?_, fun hnot => absurd ⟨hset, _, hmember, hj⟩ hnot⟩
      cases hj with
      | array => simp [Json.plain_array] at htext
      | object => simp [Json.plain_object] at htext
      | _ => rcases htext with hnull | ⟨t, ht⟩ <;> contradiction
  | nothing _ hfalsy =>
      refine ⟨fun _ hmistyped => ?_, fun _ => .inl rfl⟩
      obtain ⟨-, j, hj, huntextual⟩ := hmistyped
      have htruthy := Json.truthy_plain.mpr (.inr huntextual)
      rw [hfalsy j hj] at htruthy
      cases htruthy

/-- A setting that the file gives as something else than a text is what the file gives. -/
theorem Comes.eq_plain {v : Value} (h : Comes members environment key v) (hmistyped : Mistyped members environment key) :
    ∃ j, members.reverse.lookup key = some j ∧ j.Untextual ∧ v = j.plain := by
  obtain ⟨hset, j, hmember, hj⟩ := hmistyped
  have hnot : ¬ (v = .null ∨ ∃ t, v = .text t) := by
    rw [h.text_iff, Classical.not_not]
    exact ⟨hset, j, hmember, hj⟩
  rw [not_or] at hnot
  cases h with
  | setting => exact absurd ⟨_, rfl⟩ hnot.2
  | text => exact absurd ⟨_, rfl⟩ hnot.2
  | other _ hmember hj => exact ⟨_, hmember, hj, rfl⟩
  | nothing => exact absurd rfl hnot.1

/-! ### Versions and addresses of settings -/

variable {s : SettingMap} {w : Surroundings}

/-- A version is left out or a text where its setting is. -/
theorem apiVersion_of_text (h : given s "api_version" = .null ∨ ∃ t, given s "api_version" = .text t) :
    apiVersion s = .ok .null ∨ ∃ t, apiVersion s = .ok (.text t) := by
  rcases h with hnull | ⟨t, ht⟩
  · rw [apiVersion, hnull]
    exact .inl rfl
  · rw [apiVersion, ht]
    exact .inr ⟨_, rfl⟩

/-- A version that counts as given and is no text has no reading. -/
theorem apiVersion_of_untextual {j : Json} (hj : j.Untextual) (h : given s "api_version" = j.plain) :
    apiVersion s = .error (.versionNotText j.plain.typeName) := by
  rw [apiVersion, h]
  cases hj with
  | array => rw [Json.plain_array]
  | object => rw [Json.plain_object]
  | _ => rfl

/-- An address that counts as given and is no text has no reading. -/
theorem choose_of_untextual (w : Surroundings) {j : Json} (hj : j.Untextual) :
    Address.choose w j.plain = .error (.notText j.plain.typeName) := by
  cases hj with
  | array =>
      rw [Json.plain_array]
      rfl
  | object =>
      rw [Json.plain_object]
      rfl
  | _ => rfl

theorem client_eq_error {f : Fault} : client w s = .error f ↔ apiVersion s = .error f ∨
    ∃ v g, apiVersion s = .ok v ∧ Address.choose w (daemonAddress s) = .error g ∧ f = .address g := by
  rw [client, bind_eq_error]
  refine or_congr_right (exists_congr fun v => ?_)
  cases hchoose : Address.choose w (daemonAddress s) with
  | ok a => simp
  | error g => simp [eq_comm]

/-! ### Clients of settings -/

/-- How making a client ends: with a client, or for want of a daemon at the address. -/
inductive Tried (w : Surroundings) : Except Fault Client → Prop
  | made {c : Client} : Tried w (.ok c)
  | missing {path : String} (h : w.has path = false) : Tried w (.error (.address (.missingSocket path)))
  | authority {f : AuthorityFault} : Tried w (.error (.address (.authority f)))

/-- An address that is left out or a text gives one, or none for want of a daemon. -/
theorem choose_of_text {v : Value} (h : v = .null ∨ ∃ t, v = .text t) {f : AddressFault}
    (hf : Address.choose w v = .error f) :
    (∃ path, f = .missingSocket path ∧ w.has path = false) ∨ ∃ g, f = .authority g := by
  rcases h with rfl | ⟨t, rfl⟩
  · exact Address.ofChars_eq_error hf
  · exact Address.ofChars_eq_error hf

/-- What settings are to a client that is made of them. -/
structure Makes (w : Surroundings) (members : List (String × Json)) (environment : List (String × String))
    (s : SettingMap) : Prop where
  /-- The address is left out or a text, unless the file gives something else. -/
  address : (daemonAddress s = .null ∨ ∃ t, daemonAddress s = .text t) ↔
    ¬ Mistyped members environment "docker_socket_path"
  /-- So is the version. -/
  version : (apiVersion s = .ok .null ∨ ∃ t, apiVersion s = .ok (.text t)) ↔
    ¬ Mistyped members environment "api_version"
  /-- A version that is something else cannot be read. -/
  unread : Mistyped members environment "api_version" →
    ∃ j, members.reverse.lookup "api_version" = some j ∧ apiVersion s = .error (.versionNotText j.plain.typeName)
  /-- Only where the file gives something else a client fails for another reason than want of a daemon. -/
  client : Tried w (Settings.client w s) ↔
    ¬ Mistyped members environment "docker_socket_path" ∧ ¬ Mistyped members environment "api_version"

section
variable (hversion : Comes members environment "api_version" (given s "api_version"))
include hversion

theorem apiVersion_of_mistyped (hmistyped : Mistyped members environment "api_version") :
    ∃ j, members.reverse.lookup "api_version" = some j ∧ apiVersion s = .error (.versionNotText j.plain.typeName) := by
  obtain ⟨j, hj, huntextual, hgiven⟩ := hversion.eq_plain hmistyped
  exact ⟨j, hj, apiVersion_of_untextual huntextual hgiven⟩

theorem apiVersion_iff :
    (apiVersion s = .ok .null ∨ ∃ t, apiVersion s = .ok (.text t)) ↔ ¬ Mistyped members environment "api_version" := by
  constructor
  · intro hok hmistyped
    obtain ⟨j, -, herror⟩ := apiVersion_of_mistyped hversion hmistyped
    rw [herror] at hok
    rcases hok with hok | ⟨t, hok⟩ <;> cases hok
  · intro hnot
    exact apiVersion_of_text (hversion.text_iff.mpr hnot)

theorem exists_apiVersion (hnot : ¬ Mistyped members environment "api_version") : ∃ v, apiVersion s = .ok v := by
  rcases (apiVersion_iff hversion).mpr hnot with hnull | ⟨t, ht⟩
  · exact ⟨_, hnull⟩
  · exact ⟨_, ht⟩

theorem tried_iff (haddress : Comes members environment "docker_socket_path" (given s "docker_socket_path")) :
    Tried w (client w s) ↔
      ¬ Mistyped members environment "docker_socket_path" ∧ ¬ Mistyped members environment "api_version" := by
  constructor
  · intro htried
    by_contra hmistyped
    -- the version is read first, so its fault goes before that of the address
    by_cases hv : Mistyped members environment "api_version"
    · obtain ⟨j, -, herror⟩ := apiVersion_of_mistyped hversion hv
      rw [client_eq_error.mpr (.inl herror)] at htried
      cases htried
    · have ha : Mistyped members environment "docker_socket_path" := by
        by_contra hnot
        exact hmistyped ⟨hnot, hv⟩
      obtain ⟨j, -, huntextual, hgiven⟩ := haddress.eq_plain ha
      obtain ⟨v, hok⟩ := exists_apiVersion hversion hv
      have hchoose : Address.choose w (daemonAddress s) = .error (.notText j.plain.typeName) := by
        rw [daemonAddress, hgiven, choose_of_untextual w huntextual]
      rw [client_eq_error.mpr (.inr ⟨v, _, hok, hchoose, rfl⟩)] at htried
      cases htried
  · rintro ⟨ha, hv⟩
    cases hclient : client w s with
    | ok c => exact .made
    | error f =>
        obtain ⟨v, hok⟩ := exists_apiVersion hversion hv
        rcases client_eq_error.mp hclient with herror | ⟨-, g, -, hg, rfl⟩
        · rw [hok] at herror
          cases herror
        · rcases choose_of_text (haddress.text_iff.mpr ha) hg with ⟨p, rfl, hhas⟩ | ⟨g, rfl⟩
          · exact .missing hhas
          · exact .authority

end

/-- **A client can be made of settings, or there is no daemon at its address, unless the file gives the address or the
version as something else than a text.** -/
theorem client_of_settings [Machine] (h : file.Gives path members warnings) (environment : List (String × String))
    (w : Surroundings) : Makes w members environment (load path file environment).settings := by
  have haddress := comes_given h environment "docker_socket_path" rfl
  have hversion := comes_given h environment "api_version" rfl
  exact ⟨haddress.text_iff, apiVersion_iff hversion, apiVersion_of_mistyped hversion, tried_iff hversion haddress⟩

/-- Settings with an address of a host and a version that is a number. -/
def numberedVersion : List (String × Json) := [("docker_socket_path", .text "tcp://h"), ("api_version", .int 2)]

theorem client_of_settings_numberedVersion :
    let file := File.contents (Utf8.encode (Json.object numberedVersion).render)
    let environment := [("DOCKER_API_VERSION", "v1.41")]
    file.Gives "s.json" numberedVersion [] ∧
      Makes {} numberedVersion environment (load "s.json" file environment).settings := by
  intro file environment
  have hgives : file.Gives "s.json" numberedVersion [] := File.gives_render "s.json" (by decide +kernel)
  exact ⟨hgives, client_of_settings hgives environment {}⟩

/-- Settings whose version is a number load, and no client can be made of them. -/
theorem client_numberedVersion :
    let loaded := load "s.json" (.contents (Utf8.encode (Json.object numberedVersion).render)) []
    loaded.fault? = none ∧ apiVersion loaded.settings = .error (.versionNotText "int") ∧
      client {} loaded.settings = .error (.versionNotText "int") := by
  intro loaded
  have hgives : File.Gives "s.json" _ numberedVersion [] := File.gives_render "s.json" (by decide +kernel)
  have hfinite : ¬ InfiniteTimeout numberedVersion [] := by
    rintro ⟨-, x, hmember, -⟩
    cases hmember
  have hversion : apiVersion loaded.settings = .error (.versionNotText "int") := by
    obtain ⟨j, hj, herror⟩ := apiVersion_of_mistyped (comes_given hgives [] "api_version" rfl)
      ⟨rfl, _, rfl, .int (by decide)⟩
    obtain rfl := Option.some.inj hj
    exact herror
  exact ⟨(finishes_of_gives hgives []).exactly.mpr hfinite, hversion, client_eq_error.mpr (.inl hversion)⟩

/-! ### The address of a client of settings -/

/-- The address of a client of settings: that of the text of the environment, else of the file, else of the platform. -/
inductive Chosen (w : Surroundings) (members : List (String × Json)) : Address → Prop
  | environment {text : String} {a : Address} (hset : provided? w.environment "DOCKER_HOST" = some text)
      (h : Address.ofChars w text.toList = .ok a) : Chosen w members a
  | file {text : String} {a : Address} (hset : provided? w.environment "DOCKER_HOST" = none)
      (hmember : members.reverse.lookup "docker_socket_path" = some (.text text)) (hne : text ≠ "")
      (h : Address.ofChars w text.toList = .ok a) : Chosen w members a
  | platform {a : Address} (hset : provided? w.environment "DOCKER_HOST" = none)
      (hmember : ∀ j, members.reverse.lookup "docker_socket_path" = some j → j.plain.truthy = false)
      (h : Address.OfPlatform w a) : Chosen w members a

theorem Chosen.wellFormed {a : Address} (h : Chosen w members a) : a.WellFormed w := by
  cases h with
  | environment _ h => exact Address.wellFormed_of_ofChars h
  | file _ _ _ h => exact Address.wellFormed_of_ofChars h
  | platform _ _ h => exact h.wellFormed

end

end Settings
end DaemonClient
