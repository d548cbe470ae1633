import DaemonClient.Proofs.JsonText
import DaemonClient.Proofs.Utf8
import DaemonClient.Settings.Basic

/-! Which layer a setting comes from (`load_follows`): a variable of the environment that is set and not empty goes before
the settings file, and the file before the defaults. Only the timeout is looked at when settings are loaded: it becomes
an integer, and one that cannot be read gives way to the default, also where the file has another. -/

namespace DaemonClient

namespace Named

theorem get?_cons (name key : String) (v : Value) (s : Named) :
    get? ((name, v) :: s) key = if key = name then some v else s.get? key := by
  rw [get?, get?, List.lookup_cons]
  by_cases h : key = name
  · rw [if_pos h, beq_iff_eq.mpr h]
  · rw [if_neg h, beq_false_of_ne h]

theorem get?_put (s : Named) (name key : String) (v : Value) :
    (s.put name v).get? key = if key = name then some v else s.get? key := by
  induction s with
  | nil => exact get?_cons name key v []
  | cons e s ih =>
      obtain ⟨n, w⟩ := e
      rw [put, get?_cons]
      by_cases hn : n = name
      · rw [if_pos (by simpa using hn), get?_cons, hn]
        by_cases hkey : key = name
        · rw [if_pos hkey, if_pos hkey]
        · rw [if_neg hkey, if_neg hkey, if_neg hkey]
      · rw [if_neg (by simpa using hn), get?_cons, ih]
        by_cases hkey : key = n
        · rw [if_pos hkey, if_pos hkey, if_neg fun h => hn (hkey.symm.trans h)]
        · rw [if_neg hkey, if_neg hkey]

/-- Of all that is put under a name the last stays. -/
theorem get?_putAll (s more : Named) (key : String) :
    (s.putAll more).get? key = (more.reverse.lookup key).or (s.get? key) := by
  induction more generalizing s with
  | nil => rfl
  | cons e more ih =>
      rw [show s.putAll (e :: more) = (s.put e.1 e.2).putAll more from rfl, ih, get?_put, List.reverse_cons,
        List.lookup_append, Option.or_assoc]
      have hlast : List.lookup key [e] = if key = e.1 then some e.2 else none := get?_cons e.1 key e.2 []
      rw [hlast]
      split <;> rfl

end Named

namespace Settings

/-! ### Layers -/

/-- What a variable holds that is set and not empty. -/
def provided? (environment : List (String × String)) (name : String) : Option String :=
  (environment.lookup name).filter (· ≠ "")

/-- The variable that goes before the file and the defaults of a setting. -/
def overriding? : String → Option String
  | "docker_socket_path" => some "DOCKER_HOST"
  | "api_version" => some "DOCKER_API_VERSION"
  | "timeout" => some "DOCKER_CLIENT_TIMEOUT"
  | _ => none

/-- A setting without the environment: the last member of its name, else its default. -/
def base (members : List (String × Json)) (key : String) : Option Value :=
  ((members.reverse.lookup key).map Json.plain).or (defaults.get? key)

/-- A setting as it is given: by its variable, else without the environment. -/
def given? (members : List (String × Json)) (environment : List (String × String)) (key : String) : Option Value :=
  (((overriding? key).bind (provided? environment)).map Value.text).or (base members key)

/-- Settings after a look at one variable that goes before a setting. -/
def overrideBy (environment : List (String × String)) (s : SettingMap) (o : String × String) : SettingMap :=
  ((provided? environment o.1).map fun v => s.put o.2 (.text v)).getD s

theorem override_eq (environment : List (String × String)) (s : SettingMap) :
    override environment s = overrides.foldl (overrideBy environment) s := by
  refine congrArg (fun f => List.foldl f s overrides) (funext fun s => funext fun o => ?_)
  rw [overrideBy, provided?]
  split
  · rename_i hlookup
    rw [hlookup]
    rfl
  · rename_i hlookup
    rw [hlookup]
    rfl
  · rename_i v hne hlookup
    rw [hlookup, Option.filter_some_pos (by simpa using hne)]
    rfl

theorem get?_overrideBy (environment : List (String × String)) (s : SettingMap) (o : String × String) (key : String) :
    (overrideBy environment s o).get? key =
      if key = o.2 then ((provided? environment o.1).map Value.text).or (s.get? key) else s.get? key := by
  rw [overrideBy]
  cases provided? environment o.1 with
  | none => simp
  | some v => simp [Named.get?_put]

/-- The environment goes before what is there. -/
theorem get?_override (environment : List (String × String)) (s : SettingMap) (key : String) :
    (override environment s).get? key =
      (((overriding? key).bind (provided? environment)).map Value.text).or (s.get? key) := by
  rw [override_eq, overrides]
  simp only [List.foldl_cons, List.foldl_nil, get?_overrideBy]
  by_cases hsocket : key = "docker_socket_path"
  · rw [hsocket]
    rfl
  by_cases hversion : key = "api_version"
  · rw [hversion]
    rfl
  by_cases htimeout : key = "timeout"
  · rw [htimeout]
    rfl
  have hnone : overriding? key = none := by
    unfold overriding?
    split <;> first | contradiction | rfl
  rw [if_neg htimeout, if_neg hversion, if_neg hsocket, hnone]
  rfl

theorem exists_timeout (members : List (String × Json)) (environment : List (String × String)) :
    ∃ v, given? members environment "timeout" = some v := by
  rw [given?, base]
  cases ((overriding? "timeout").bind (provided? environment)).map Value.text with
  | some v => exact ⟨v, rfl⟩
  | none =>
      cases (members.reverse.lookup "timeout").map Json.plain with
      | some v => exact ⟨v, rfl⟩
      | none => exact ⟨_, rfl⟩

/-- What is given before the timeout is settled. -/
theorem get?_layers (members : List (String × Json)) (environment : List (String × String)) (key : String) :
    (override environment (defaults.putAll (members.map fun m => (m.1, m.2.plain)))).get? key =
      given? members environment key := by
  have hlast : (members.map fun m => (m.1, m.2.plain)).reverse.lookup key =
      (members.reverse.lookup key).map Json.plain := by
    rw [← List.map_reverse]
    generalize members.reverse = ms
    induction ms with
    | nil => rfl
    | cons m ms ih =>
        rw [List.map_cons, List.lookup_cons, List.lookup_cons, ih]
        cases key == m.1 <;> rfl
  rw [get?_override, Named.get?_putAll, hlast]
  rfl

/-! ### Files -/

def unreadableLine (path : String) : LogLine := ⟨.warning, "Could not load settings from " ++ path⟩

def ignoredLine (path : String) : LogLine :=
  ⟨.warning, "Ignoring settings file " ++ path ++ ": expected a JSON object"⟩

/-- The members that a settings file gives, and the warning about one that is there and gives no object. A document
that is nested too deeply gives nothing. -/
inductive File.Gives [Machine] (path : String) : File → List (String × Json) → List LogLine → Prop
  | absent : Gives path .absent [] []
  | unreadable : Gives path .unreadable [] [unreadableLine path]
  | notText {bs : List UInt8} {fault : Utf8.Fault} (h : Utf8.decode bs = .error fault) :
    Gives path (.contents bs) [] [unreadableLine path]
  | notJson {bs : List UInt8} {s : String} (hs : Utf8.decode bs = .ok s) (h : Json.parseText s = .error .malformed) :
    Gives path (.contents bs) [] [unreadableLine path]
  | noObject {bs : List UInt8} {s : String} {j : Json} (hs : Utf8.decode bs = .ok s) (h : Json.parseText s = .ok j)
      (hj : ∀ members, j ≠ .object members) :
    Gives path (.contents bs) [] [ignoredLine path]
  | object {bs : List UInt8} {s : String} {members : List (String × Json)} (hs : Utf8.decode bs = .ok s)
      (h : Json.parseText s = .ok (.object members)) :
    Gives path (.contents bs) members []

def isWarning (line : LogLine) : Bool := line.level == .warning

section
variable [Machine] {path : String} {file : File} {members : List (String × Json)} {warnings : List LogLine}

theorem document_of_text {bs : List UInt8} {s : String} (h : Utf8.decode bs = .ok s) :
    document bs = Json.parseText s := by
  rw [document, h]

theorem File.Gives.read (h : file.Gives path members warnings) :
    ∃ log, file.read path = .ok (members.map fun m => (m.1, m.2.plain), log) ∧ log.filter isWarning = warnings := by
  cases h with
  | absent => exact ⟨[], rfl, rfl⟩
  | unreadable => exact ⟨[unreadableLine path], rfl, rfl⟩
  | notText h =>
      refine ⟨[unreadableLine path], ?_, rfl⟩
      rw [File.read, document, h]
      rfl
  | notJson hs h =>
      refine ⟨[unreadableLine path], ?_, rfl⟩
      rw [File.read, document_of_text hs, h]
      rfl
  | @noObject _ _ j hs h hj =>
      refine ⟨[ignoredLine path], ?_, rfl⟩
      rw [File.read, document_of_text hs, h]
      cases j with
      | object members => exact absurd rfl (hj members)
      | _ => rfl
  | object hs h =>
      refine ⟨[⟨.info, "Settings loaded from " ++ path⟩], ?_, rfl⟩
      rw [File.read, document_of_text hs, h]

/-- A file that is read is in one of the states. -/
theorem File.gives_of_read {given : SettingMap × List LogLine} (h : file.read path = .ok given) :
    ∃ members warnings, file.Gives path members warnings := by
  cases file with
  | absent => exact ⟨_, _, .absent⟩
  | unreadable => exact ⟨_, _, .unreadable⟩
  | contents bs =>
      cases hs : Utf8.decode bs with
      | error fault => exact ⟨_, _, .notText hs⟩
      | ok s =>
          cases hparse : Json.parseText s with
          | error fault =>
              cases fault with
              | malformed => exact ⟨_, _, .notJson hs hparse⟩
              | tooDeep container =>
                  rw [File.read, document_of_text hs, hparse] at h
                  cases h
          | ok j =>
              cases j with
              | object members => exact ⟨_, _, .object hs hparse⟩
              | _ => exact ⟨_, _, .noObject hs hparse fun _ => Json.noConfusion⟩

/-! ### Loading -/

/-- The warning about a timeout that cannot be read. -/
def rejectedLine (given : Value) : LogLine := ⟨.warning, s!"Invalid timeout {given.literal}, using default"⟩

/-- A timeout is given that is no infinite number. -/
def FiniteTimeout (members : List (String × Json)) (environment : List (String × String)) : Prop :=
  ∀ v ∈ given? members environment "timeout", readTimeout v ≠ .infinite

/-- The timeout that is loaded where one is given, and all warnings. -/
inductive Settles (warnings : List LogLine) (given : Value) : Option Value → List LogLine → Prop
  | read {n : Int} (h : readTimeout given = .read n) : Settles warnings given (some (.int n)) warnings
  | rejected (h : readTimeout given = .rejected) :
    Settles warnings given (some (.int 60)) (warnings ++ [rejectedLine given])

/-- Settings that follow the order of the layers. -/
structure Follows (members : List (String × Json)) (warnings : List LogLine) (environment : List (String × String))
    (loaded : Loaded) : Prop where
  /-- All settings but the timeout are as given. -/
  setting : ∀ key, key ≠ "timeout" → loaded.settings.get? key = given? members environment key
  /-- The timeout is the integer that is given, else the default. -/
  timeout : ∃ v, given? members environment "timeout" = some v ∧
    Settles warnings v (loaded.settings.get? "timeout") (loaded.log.filter isWarning)

theorem load_of_gives (h : file.Gives path members warnings) (environment : List (String × String)) :
    ∃ s log, load path file environment = settleTimeout s log ∧ (∀ key, s.get? key = given? members environment key) ∧
      log.filter isWarning = warnings := by
  obtain ⟨log, hread, hlog⟩ := h.read
  exact ⟨_, log, by rw [load, hread], get?_layers members environment, hlog⟩

/-- **The environment goes before the settings file, and the file before the defaults.** -/
theorem load_follows (path : String) (file : File) (environment : List (String × String)) :
    (∀ {members warnings}, file.Gives path members warnings → FiniteTimeout members environment →
      (load path file environment).fault? = none ∧
        Follows members warnings environment (load path file environment)) ∧
    ((load path file environment).fault? = none →
      ∃ members warnings, file.Gives path members warnings ∧ FiniteTimeout members environment) := by
  constructor
  · intro members warnings hgives hfinite
    obtain ⟨s, log, hload, hs, hlog⟩ := load_of_gives hgives environment
    obtain ⟨v, hv⟩ := exists_timeout members environment
    have hgiven : (s.get? "timeout").getD .null = v := by rw [hs, hv]; rfl
    rw [hload, settleTimeout, hgiven]
    cases htimeout : readTimeout v with
    | read n =>
        refine ⟨rfl, fun key hkey => ?_, v, hv, ?_⟩
        · rw [Named.get?_put, if_neg hkey, hs]
        · rw [Named.get?_put, if_pos rfl, hlog]
          exact .read htimeout
    | rejected =>
        refine ⟨rfl, fun key hkey => ?_, v, hv, ?_⟩
        · rw [Named.get?_put, if_neg hkey, hs]
        · rw [Named.get?_put, if_pos rfl, List.filter_append, hlog]
          exact .rejected htimeout
    | infinite => exact absurd htimeout (hfinite v hv)
  · intro hloads
    cases hread : file.read path with
    | error container =>
        rw [load, hread] at hloads
        cases hloads
    | ok given =>
        obtain ⟨members, warnings, hgives⟩ := File.gives_of_read hread
        refine ⟨members, warnings, hgives, fun v hv hinfinite => ?_⟩
        obtain ⟨s, log, hload, hs, -⟩ := load_of_gives hgives environment
        have hgiven : (s.get? "timeout").getD .null = v := by rw [hs, hv]; rfl
        rw [hload, settleTimeout, hgiven, hinfinite] at hloads
        cases hloads

end

/-- Settings with a timeout that is no number, a setting that nothing knows, and a version. -/
def mixedSettings : List (String × Json) :=
  [("timeout", .text "soon"), ("colour", .bool true), ("api_version", .text "1.41")]

theorem load_follows_mixedSettings :
    let file := File.contents (Utf8.encode (Json.object mixedSettings).render)
    let environment := [("DOCKER_HOST", "tcp://h:1"), ("DOCKER_API_VERSION", "")]
    file.Gives "s.json" mixedSettings [] ∧ FiniteTimeout mixedSettings environment ∧
      (load "s.json" file environment).fault? = none ∧
      Follows mixedSettings [] environment (load "s.json" file environment) := by
  intro file environment
  have hgives : file.Gives "s.json" mixedSettings [] := by
    refine .object (Utf8.decode_encode _) ?_
    rw [Json.parseText, Json.render, String.toList_ofList, Json.parse_write (by decide)]
  have hfinite : FiniteTimeout mixedSettings environment := by
    intro v hv
    obtain rfl : Value.text "soon" = v := Option.some.inj hv
    exact Timeout.noConfusion
  exact ⟨hgives, hfinite, (load_follows "s.json" file environment).1 hgives hfinite⟩

end Settings
end DaemonClient
