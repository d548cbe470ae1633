import DaemonClient.Proofs.IntegerText
import DaemonClient.Proofs.Precedence

/-! Which settings load, and with which timeout (`load_finishes`). A timeout that counts as an integer is that integer,
and any other gives way to the default with a warning, with one gap: a settings file may give an infinite number, which
is neither. Then, and for no other file within the depth that the reader follows, loading does not come to its end. -/

namespace DaemonClient
namespace Settings

/-! ### Timeouts -/

/-- A value counts as an integer: an integer itself, a truth value, a finite number by its integer part, a text of an
integer. -/
inductive Counts : Value → Int → Prop
  | int (n : Int) : Counts (.int n) n
  | no : Counts (.bool false) 0
  | yes : Counts (.bool true) 1
  | float {x : Binary64} (h : x.isFinite = true) : Counts (.float x) x.truncate
  | text {s : String} {n : Int} (h : IntegerText s.toList n) : Counts (.text s) n

/-- A number is finite if it is neither infinite nor none. -/
theorem isFinite_iff {x : Binary64} : x.isFinite = true ↔ x.isInfinite = false ∧ x.isNaN = false := by
  rw [Binary64.isFinite, Binary64.isInfinite, Binary64.isNaN]
  by_cases hexponent : x.exponentField = 2047
  · by_cases hfraction : x.fractionField = 0 <;> simp [hexponent, hfraction]
  · simp [hexponent]

theorem readTimeout_float (x : Binary64) :
    readTimeout (.float x) =
      if x.isInfinite then .infinite else if x.isFinite then .read x.truncate else .rejected := by
  rw [readTimeout]
  by_cases hinfinite : x.isInfinite = true
  · rw [if_pos hinfinite, if_pos hinfinite]
  · rw [if_neg hinfinite, if_neg hinfinite]
    rw [Bool.not_eq_true] at hinfinite
    by_cases hnan : x.isNaN = true
    · rw [if_pos hnan, if_neg fun h => by simp [(isFinite_iff.mp h).2] at hnan]
    · rw [Bool.not_eq_true] at hnan
      rw [if_neg (by simp [hnan]), if_pos (isFinite_iff.mpr ⟨hinfinite, hnan⟩)]

theorem readTimeout_eq_infinite {v : Value} :
    readTimeout v = .infinite ↔ ∃ x, v = .float x ∧ x.isInfinite = true := by
  constructor
  · intro h
    cases v with
    | float x =>
        refine ⟨x, rfl, ?_⟩
        by_contra hfinite
        rw [readTimeout_float, if_neg hfinite] at h
        split at h <;> cases h
    | text s =>
        rw [readTimeout] at h
        split at h <;> cases h
    | _ => cases h
  · rintro ⟨x, rfl, hinfinite⟩
    rw [readTimeout_float, if_pos hinfinite]

/-- **The timeouts that are read are the values that count as an integer.** -/
theorem readTimeout_eq_read {v : Value} {n : Int} : readTimeout v = .read n ↔ Counts v n := by
  constructor
  · intro h
    cases v with
    | int m =>
        obtain rfl := Timeout.read.inj h
        exact .int m
    | bool b =>
        obtain rfl := Timeout.read.inj h
        cases b
        · exact .no
        · exact .yes
    | float x =>
        rw [readTimeout_float] at h
        split at h
        · cases h
        split at h
        · rename_i hfinite
          obtain rfl := Timeout.read.inj h
          exact .float hfinite
        · cases h
    | text s =>
        rw [readTimeout] at h
        split at h
        · rename_i hread
          obtain rfl := Timeout.read.inj h
          exact .text (readInteger_eq_some.mp hread)
        · cases h
    | _ => cases h
  · intro h
    cases h with
    | int => rfl
    | no => rfl
    | yes => rfl
    | float hfinite => rw [readTimeout_float, (isFinite_iff.mp hfinite).1, if_neg Bool.false_ne_true, if_pos hfinite]
    | text hread => rw [readTimeout, readInteger_eq_some.mpr hread]

/-! ### Files -/

/-- A file whose document has a container inside more others than the reader follows. -/
def File.TooDeep [Machine] (file : File) (container : Json.Container) : Prop :=
  ∃ bs s, file = .contents bs ∧ Utf8.decode bs = .ok s ∧ Json.parseText s = .error (.tooDeep container)

theorem File.tooDeep_of_read [Machine] {path : String} {file : File} {container : Json.Container}
    (h : file.read path = .error container) : file.TooDeep container := by
  cases file with
  | absent => cases h
  | unreadable => cases h
  | contents bs =>
      rw [File.read, document] at h
      cases hs : Utf8.decode bs with
      | error fault =>
          rw [hs] at h
          cases h
      | ok s =>
          rw [hs] at h
          simp only at h
          refine ⟨bs, s, rfl, hs, ?_⟩
          cases hparse : Json.parseText s with
          | ok j =>
              rw [hparse] at h
              cases j <;> cases h
          | error fault =>
              rw [hparse] at h
              cases fault with
              | malformed => cases h
              | tooDeep c => rw [Except.error.inj h]

/-- A file within the depth that the reader follows is in one of the states. -/
theorem File.exists_gives [Machine] (path : String) {file : File} (h : ∀ container, ¬ file.TooDeep container) :
    ∃ members warnings, file.Gives path members warnings := by
  cases hread : file.read path with
  | ok given => exact File.gives_of_read hread
  | error container => exact absurd (File.tooDeep_of_read hread) (h container)

/-- A file in one of the states is within the depth that the reader follows. -/
theorem File.Gives.not_tooDeep [Machine] {path : String} {file : File} {members : List (String × Json)}
    {warnings : List LogLine} (h : file.Gives path members warnings) (container : Json.Container) :
    ¬ file.TooDeep container := by
  rintro ⟨bs, s, rfl, hs, hparse⟩
  obtain ⟨log, hread, -⟩ := h.read
  rw [File.read, document_of_text hs, hparse] at hread
  cases hread

/-- A file that holds settings as they are written gives them. -/
theorem File.gives_render [Machine] (path : String) {members : List (String × Json)}
    (h : Json.fits Machine.textDepth (.object members) = true) :
    (File.contents (Utf8.encode (Json.object members).render)).Gives path members [] := by
  refine .object (Utf8.decode_encode _) ?_
  rw [Json.parseText, Json.render, String.toList_ofList]
  exact Json.parse_write h

/-! ### Loading -/

section
variable {members : List (String × Json)} {environment : List (String × String)}

/-- The last timeout of the file is an infinite number, and no variable goes before it. -/
def InfiniteTimeout (members : List (String × Json)) (environment : List (String × String)) : Prop :=
  provided? environment "DOCKER_CLIENT_TIMEOUT" = none ∧
    ∃ x, members.reverse.lookup "timeout" = some (.float x) ∧ x.isInfinite = true

theorem plain_eq_float {j : Json} {x : Binary64} (h : j.plain = .float x) : j = .float x := by
  cases j <;> cases h
  rfl

theorem given?_timeout : given? members environment "timeout" =
    ((provided? environment "DOCKER_CLIENT_TIMEOUT").map Value.text).or
      (((members.reverse.lookup "timeout").map Json.plain).or (some (.int defaultTimeout))) := rfl

/-- Only the file can give an infinite timeout. -/
theorem infiniteTimeout_iff : InfiniteTimeout members environment ↔
    ∃ v, given? members environment "timeout" = some v ∧ readTimeout v = .infinite := by
  constructor
  · rintro ⟨hvariable, x, hmember, hinfinite⟩
    refine ⟨.float x, ?_, readTimeout_eq_infinite.mpr ⟨x, rfl, hinfinite⟩⟩
    rw [given?_timeout, hvariable, hmember]
    rfl
  · rintro ⟨v, hgiven, hinfinite⟩
    obtain ⟨x, rfl, hx⟩ := readTimeout_eq_infinite.mp hinfinite
    rw [given?_timeout] at hgiven
    cases hvariable : provided? environment "DOCKER_CLIENT_TIMEOUT" with
    | some text =>
        rw [hvariable] at hgiven
        cases hgiven
    | none =>
        rw [hvariable] at hgiven
        cases hmember : members.reverse.lookup "timeout" with
        | none =>
            rw [hmember] at hgiven
            cases hgiven
        | some j =>
            rw [hmember] at hgiven
            exact ⟨hvariable, x, by rw [hmember, plain_eq_float (Option.some.inj hgiven)], hx⟩

/-- The integer under the timeout and the warnings, after loading with a timeout that is given. -/
inductive Kept (warnings : List LogLine) (given : Value) : Int → List LogLine → Prop
  | counted {n : Int} (h : Counts given n) : Kept warnings given n warnings
  | replaced (h : ∀ n, ¬ Counts given n) : Kept warnings given 60 (warnings ++ [rejectedLine given])

/-- How loading ends. -/
structure Finishes (members : List (String × Json)) (warnings : List LogLine) (environment : List (String × String))
    (loaded : Loaded) : Prop where
  /-- Loading comes to its end unless the timeout is infinite. -/
  exactly : loaded.fault? = none ↔ ¬ InfiniteTimeout members environment
  /-- An infinite timeout is what keeps it from its end. -/
  fault : InfiniteTimeout members environment → loaded.fault? = some .infiniteTimeout
  /-- At its end there is an integer under the timeout: the one that is given, or the default with a warning. -/
  timeout : loaded.fault? = none → ∃ given n, given? members environment "timeout" = some given ∧
    loaded.settings.get? "timeout" = some (.int n) ∧ Kept warnings given n (loaded.log.filter isWarning)

theorem finishes_of_gives [Machine] {path : String} {file : File} {warnings : List LogLine}
    (hgives : file.Gives path members warnings) (environment : List (String × String)) :
    Finishes members warnings environment (load path file environment) := by
  obtain ⟨s, log, hload, hs, hlog⟩ := load_of_gives hgives environment
  obtain ⟨v, hv⟩ := exists_timeout members environment
  have hgiven : (s.get? "timeout").getD .null = v := by rw [hs, hv]; rfl
  have hinfinite : InfiniteTimeout members environment ↔ readTimeout v = .infinite := by
    rw [infiniteTimeout_iff]
    constructor
    · rintro ⟨w, hw, hread⟩
      obtain rfl := Option.some.inj (hv.symm.trans hw)
      exact hread
    · intro hread
      exact ⟨v, hv, hread⟩
  have hfinite (hread : readTimeout v ≠ .infinite) : ¬ InfiniteTimeout members environment := by
    rw [hinfinite]
    exact hread
  rw [hload, settleTimeout, hgiven]
  cases htimeout : readTimeout v with
  | read n =>
      have hnot := hfinite (by rw [htimeout]; exact Timeout.noConfusion)
      refine ⟨⟨fun _ => hnot, fun _ => rfl⟩, fun h => absurd h hnot, fun _ => ⟨v, n, hv, ?_, ?_⟩⟩
      · rw [Named.get?_put, if_pos rfl]
      · rw [hlog]
        exact .counted (readTimeout_eq_read.mp htimeout)
  | rejected =>
      have hnot := hfinite (by rw [htimeout]; exact Timeout.noConfusion)
      have huncounted (n : Int) : ¬ Counts v n := by
        rw [← readTimeout_eq_read, htimeout]
        exact Timeout.noConfusion
      refine ⟨⟨fun _ => hnot, fun _ => rfl⟩, fun h => absurd h hnot, fun _ => ⟨v, 60, hv, ?_, ?_⟩⟩
      · rw [Named.get?_put, if_pos rfl]
        rfl
      · rw [List.filter_append, hlog]
        exact .replaced huncounted
  | infinite =>
      have hgap : InfiniteTimeout members environment := hinfinite.mpr htimeout
      refine ⟨⟨fun h => ?_, fun h => absurd hgap h⟩, fun _ => rfl, fun h => ?_⟩
      · cases h
      · cases h

end

/-- **Settings load unless the file gives an infinite timeout that no variable goes before**, whatever else the file
holds within the depth that the reader follows. Loading leaves an integer under the timeout: the one that is given, or
the default with a warning. -/
theorem load_finishes [Machine] (path : String) {file : File} (hdeep : ∀ container, ¬ file.TooDeep container)
    (environment : List (String × String)) :
    ∃ members warnings, file.Gives path members warnings ∧
      Finishes members warnings environment (load path file environment) := by
  obtain ⟨members, warnings, hgives⟩ := File.exists_gives path hdeep
  exact ⟨members, warnings, hgives, finishes_of_gives hgives environment⟩

/-- Settings whose timeout is a text of an integer: a sign, digits of two scripts, and an underscore. -/
def spacedTimeout : List (String × Json) := [("timeout", .text " +1_٣ ")]

theorem load_finishes_spacedTimeout :
    let file := File.contents (Utf8.encode (Json.object spacedTimeout).render)
    (∀ container, ¬ file.TooDeep container) ∧
      ∃ members warnings, file.Gives "s.json" members warnings ∧
        Finishes members warnings [("DOCKER_CLIENT_TIMEOUT", "")]
          (load "s.json" file [("DOCKER_CLIENT_TIMEOUT", "")]) := by
  intro file
  have hgives : file.Gives "s.json" spacedTimeout [] := File.gives_render "s.json" (by decide)
  exact ⟨hgives.not_tooDeep, load_finishes "s.json" hgives.not_tooDeep _⟩

/-- A settings file whose timeout is written as an infinite number does not load. -/
theorem load_infinity :
    let file := File.contents (Utf8.encode "\x7b\"timeout\": Infinity\x7d")
    (∀ container, ¬ file.TooDeep container) ∧ (load "s.json" file []).fault? = some .infiniteTimeout := by
  intro file
  have hfault : (load "s.json" file []).fault? = some .infiniteTimeout := by decide +kernel
  refine ⟨fun container hdeep => ?_, hfault⟩
  obtain ⟨bs, s, hfile, hs, hparse⟩ := hdeep
  rw [hfile, load, File.read, document_of_text hs, hparse] at hfault
  cases hfault

end Settings
end DaemonClient
