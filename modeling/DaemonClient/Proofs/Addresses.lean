import DaemonClient.Address.Basic
import DaemonClient.Proofs.HostNames
import DaemonClient.Proofs.Precedence

/-! Addresses of daemons. An address that a client gets is well-formed, whatever text it was made of
(`wellFormed_of_ofChars`): a socket that exists, or a host with a name and a port. Which text that is follows an order
(`choose_eq_ok`): the caller's, else the environment's, else that of the platform. -/

namespace DaemonClient
namespace Address
open Settings (provided?)

/-! ### Texts of addresses -/

/-- An address text of a host begins with one of two schemes. -/
def namesHost (cs : List Char) : Bool := tcpScheme.isPrefixOf cs || httpScheme.isPrefixOf cs

/-- The authority in an address text of a host. -/
def authorityOf (cs : List Char) : List Char :=
  Authority.ofRest ((replaceFirst tcpScheme httpScheme cs).drop httpScheme.length)

/-- The host as an address text writes it. -/
def hostOf (cs : List Char) : List Char := (Authority.hostAndPort (authorityOf cs)).1

/-- The path in an address text of a socket. -/
def pathOf (cs : List Char) : String := String.ofList (replaceFirst unixScheme [] cs)

/-- The name that a host gets: the local one if none is written. -/
def nameOf (host : List Char) : String := if host.isEmpty then "localhost" else Authority.hostName host

/-- The port that a host gets: the default one if none is written, or port zero. -/
def portOf : Option Nat → Nat
  | none | some 0 => defaultPort
  | some n => n

section
variable {w : Surroundings} {cs : List Char} {a : Address}

theorem replaceFirst_append {c : Char} {cs replacement : List Char} (rest : List Char) :
    replaceFirst (c :: cs) replacement (c :: cs ++ rest) = replacement ++ rest := by
  have hprefix : (c :: cs).isPrefixOf (c :: (cs ++ rest)) = true :=
    List.isPrefixOf_iff_prefix.mpr (List.prefix_append (c :: cs) rest)
  rw [List.cons_append, replaceFirst, if_pos hprefix, ← List.cons_append, List.drop_left]

theorem ofAuthority_eq_ok : ofAuthority cs = .ok a ↔ Authority.fault? cs = none ∧
    ∃ p, Authority.portNumber (Authority.hostAndPort cs).2 = .ok p ∧
      a = .host (nameOf (Authority.hostAndPort cs).1) (portOf p) := by
  rw [ofAuthority]
  cases Authority.fault? cs with
  | some f => simp
  | none =>
      simp only [true_and]
      cases Authority.portNumber (Authority.hostAndPort cs).2 with
      | error f => simp
      | ok p =>
          simp only [Except.ok.injEq, exists_eq_left']
          exact eq_comm

theorem ofAuthority_eq_error {f : AddressFault} (h : ofAuthority cs = .error f) : ∃ g, f = .authority g := by
  rw [ofAuthority] at h
  cases hfault : Authority.fault? cs with
  | some g =>
      rw [hfault] at h
      exact ⟨g, (Except.error.inj h).symm⟩
  | none =>
      rw [hfault] at h
      simp only at h
      cases hport : Authority.portNumber (Authority.hostAndPort cs).2 with
      | error g =>
          rw [hport] at h
          exact ⟨g, (Except.error.inj h).symm⟩
      | ok p =>
          rw [hport] at h
          cases h

theorem ofChars_host (h : namesHost cs = true) : ofChars w cs = ofAuthority (authorityOf cs) := if_pos h

theorem ofChars_socket (h : namesHost cs = false) :
    ofChars w cs = if w.has (pathOf cs) then .ok (.socket (pathOf cs)) else .error (.missingSocket (pathOf cs)) :=
  if_neg (by rw [← namesHost, h]; exact Bool.false_ne_true)

/-- An address text names a host with an authority that has no fault, or a socket that exists. -/
theorem ofChars_eq_ok : ofChars w cs = .ok a ↔
    (namesHost cs = true ∧ ofAuthority (authorityOf cs) = .ok a) ∨
      (namesHost cs = false ∧ w.has (pathOf cs) = true ∧ a = .socket (pathOf cs)) := by
  cases hscheme : namesHost cs with
  | true => simp [ofChars_host hscheme]
  | false =>
      rw [ofChars_socket hscheme]
      cases hhas : w.has (pathOf cs) with
      | true => simp [eq_comm]
      | false => simp

/-- An address text gives no address for want of a socket, or for a fault of an authority. -/
theorem ofChars_eq_error {f : AddressFault} (h : ofChars w cs = .error f) :
    (∃ path, f = .missingSocket path ∧ w.has path = false) ∨ ∃ g, f = .authority g := by
  cases hscheme : namesHost cs with
  | true =>
      rw [ofChars_host hscheme] at h
      exact .inr (ofAuthority_eq_error h)
  | false =>
      rw [ofChars_socket hscheme] at h
      split at h
      · cases h
      · rename_i hhas
        exact .inl ⟨_, (Except.error.inj h).symm, by simpa using hhas⟩

/-! ### Well-formed addresses -/

/-- An address that a client can have: a socket that exists, or a host with a name and a port. -/
inductive WellFormed (w : Surroundings) : Address → Prop
  | socket {path : String} (h : w.has path = true) : WellFormed w (.socket path)
  | host {name : String} {port : Nat} (hname : name ≠ "") (hport : 1 ≤ port ∧ port ≤ 65535) :
      WellFormed w (.host name port)

theorem nameOf_ne_empty (host : List Char) : nameOf host ≠ "" := by
  rw [nameOf]
  split
  · decide
  · rename_i hwritten
    exact Authority.hostName_ne_empty fun hnil => hwritten (by rw [hnil]; rfl)

theorem portNumber_le {port : List Char} {n : Nat} (h : Authority.portNumber port = .ok (some n)) : n ≤ 65535 := by
  rw [Authority.portNumber] at h
  split at h
  · cases h
  split at h
  · cases h
  split at h
  · cases h
  split at h
  · cases h
  · rename_i hrange
    obtain rfl := Option.some.inj (Except.ok.inj h)
    omega

theorem portOf_range {port : List Char} {p : Option Nat} (h : Authority.portNumber port = .ok p) :
    1 ≤ portOf p ∧ portOf p ≤ 65535 := by
  cases p with
  | none => decide
  | some n =>
      cases n with
      | zero => decide
      | succ n => exact ⟨Nat.le_add_left 1 n, portNumber_le h⟩

/-- **The address of a text is well-formed.** -/
theorem wellFormed_of_ofChars (h : ofChars w cs = .ok a) : a.WellFormed w := by
  rcases ofChars_eq_ok.mp h with ⟨-, hauthority⟩ | ⟨-, hhas, rfl⟩
  · obtain ⟨-, p, hport, rfl⟩ := ofAuthority_eq_ok.mp hauthority
    exact .host (nameOf_ne_empty _) (portOf_range hport)
  · exact .socket hhas

/-! ### The order of addresses -/

/-- The socket of the user's own daemon. -/
def ownSocket (w : Surroundings) : String := w.underHome "/.docker/run/docker.sock"

/-- The address of the platform: the user's own socket where the platform has one, else the default socket. -/
inductive OfPlatform (w : Surroundings) : Address → Prop
  | own (hplatform : w.platform = "Darwin") (hown : w.has (ownSocket w) = true) : OfPlatform w (.socket (ownSocket w))
  | standard (hown : ¬ (w.platform = "Darwin" ∧ w.has (ownSocket w) = true)) (h : w.has defaultSocket = true) :
      OfPlatform w (.socket defaultSocket)

/-- The address of a client, given a text or none: that of the text, else of the environment, else of the platform. -/
inductive Chosen (w : Surroundings) : Option String → Address → Prop
  | given {text : String} {a : Address} (h : ofChars w text.toList = .ok a) : Chosen w (some text) a
  | environment {text : String} {a : Address} (hset : provided? w.environment "DOCKER_HOST" = some text)
      (h : ofChars w text.toList = .ok a) : Chosen w none a
  | platform {a : Address} (hset : provided? w.environment "DOCKER_HOST" = none) (h : OfPlatform w a) : Chosen w none a

theorem OfPlatform.wellFormed (h : OfPlatform w a) : a.WellFormed w := by
  cases h with
  | own _ hown => exact .socket hown
  | standard _ hhas => exact .socket hhas

theorem Chosen.wellFormed {base : Option String} (h : Chosen w base a) : a.WellFormed w := by
  cases h with
  | given h => exact wellFormed_of_ofChars h
  | environment _ h => exact wellFormed_of_ofChars h
  | platform _ h => exact h.wellFormed

/-- The path of a socket text is what follows the scheme. -/
theorem ofChars_unix (w : Surroundings) (path : String) : ofChars w ("unix://" ++ path).toList =
    if w.has path then .ok (.socket path) else .error (.missingSocket path) := by
  have hchars : ("unix://" ++ path).toList = unixScheme ++ path.toList := String.toList_append
  have hpath : pathOf (unixScheme ++ path.toList) = path := by
    rw [pathOf, unixScheme, replaceFirst_append, List.nil_append, String.ofList_toList]
  have hscheme : namesHost (unixScheme ++ path.toList) = false := rfl
  rw [hchars, ofChars_socket hscheme, hpath]

/-- An address text that a caller gives or leaves out. -/
def baseValue (base : Option String) : Value := base.elim .null .text

/-- The text that an address is made of: the one that is given, else that of the surroundings. -/
def textOf (w : Surroundings) (base : Option String) : String := base.getD (defaultText w)

theorem choose_baseValue (w : Surroundings) (base : Option String) :
    choose w (baseValue base) = ofChars w (textOf w base).toList := by
  cases base <;> rfl

end

end Address
end DaemonClient
