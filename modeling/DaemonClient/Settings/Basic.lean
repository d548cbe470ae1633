import DaemonClient.Client.Exchange
import DaemonClient.Value.Named
import DaemonClient.Text.Uppercase

/-! Settings of a client: defaults, overridden by a settings file, overridden by the environment. The timeout is made
an integer when settings are loaded; all other settings keep whatever the file holds. -/

namespace DaemonClient

/-- Settings by name, in the order of the defaults and then of the file. -/
abbrev SettingMap := Named

namespace Settings

/-- The timeout that stands where none can be read. -/
def defaultTimeout : Int := 60

/-- The settings without file and environment. -/
def defaults : SettingMap :=
  [("docker_socket_path", .text ""), ("timeout", .int defaultTimeout), ("api_version", .text ""),
    ("log_level", .text "WARNING")]

/-- Variables that override a setting. -/
def overrides : List (String × String) :=
  [("DOCKER_HOST", "docker_socket_path"), ("DOCKER_API_VERSION", "api_version"), ("DOCKER_CLIENT_TIMEOUT", "timeout")]

/-- A settings file as it is found. -/
inductive File
  | absent
  | unreadable
  | contents (octets : List UInt8)

def document [Machine] (octets : List UInt8) : Except Json.ReadFault Json :=
  match Utf8.decode octets with
  | .ok s => Json.parseText s
  | .error _ => .error .malformed

/-- What a settings file gives, with the line that tells of it. A document that is nested too deeply gives nothing at
all. -/
def File.read [Machine] (path : String) : File → Except Json.Container (SettingMap × List LogLine)
  | absent => .ok ([], [])
  | unreadable => .ok ([], [⟨.warning, "Could not load settings from " ++ path⟩])
  | contents bs =>
    match document bs with
    | .error .malformed => .ok ([], [⟨.warning, "Could not load settings from " ++ path⟩])
    | .error (.tooDeep container) => .error container
    | .ok (.object members) =>
      .ok (members.map fun m => (m.1, m.2.plain), [⟨.info, "Settings loaded from " ++ path⟩])
    | .ok _ => .ok ([], [⟨.warning, "Ignoring settings file " ++ path ++ ": expected a JSON object"⟩])

/-- Settings with the variables that are set and not empty. -/
def override (environment : List (String × String)) (s : SettingMap) : SettingMap :=
  overrides.foldl (fun s o =>
    match environment.lookup o.1 with
    | none | some "" => s
    | some v => s.put o.2 (.text v)) s

inductive Timeout
  | read (n : Int)
  | rejected
  | infinite

/-- The integer that a timeout stands for: numbers towards zero, texts by the tolerant notation. An infinite number
stands for none and is not rejected either. -/
def readTimeout : Value → Timeout
  | .int n => .read n
  | .bool b => .read (if b then 1 else 0)
  | .float x => if x.isInfinite then .infinite else if x.isNaN then .rejected else .read x.truncate
  | .text s => match readInteger s.toList with
    | some n => .read n
    | none => .rejected
  | _ => .rejected

inductive LoadFault
  /-- A file that is nested too deeply: the settings are the defaults. -/
  | tooDeep (container : Json.Container)
  /-- A timeout that is infinite: it is still as it was given. -/
  | infiniteTimeout
  deriving DecidableEq, Repr

def LoadFault.message : LoadFault → String
  | tooDeep container => container.tooDeepText
  | infiniteTimeout => "cannot convert float infinity to integer"

/-- Settings after loading, what was logged, and what kept loading from its end. -/
structure Loaded where
  settings : SettingMap
  log : List LogLine
  fault? : Option LoadFault

def settleTimeout (s : SettingMap) (log : List LogLine) : Loaded :=
  let given := (s.get? "timeout").getD .null
  match readTimeout given with
  | .read n => ⟨s.put "timeout" (.int n), log, none⟩
  | .rejected =>
    ⟨s.put "timeout" (.int defaultTimeout), log ++ [⟨.warning, s!"Invalid timeout {given.literal}, using default"⟩],
      none⟩
  | .infinite => ⟨s, log, some .infiniteTimeout⟩

/-- Loads settings: defaults, then the file, then the environment, then the timeout is settled. -/
def load [Machine] (path : String) (file : File) (environment : List (String × String)) : Loaded :=
  match file.read path with
  | .ok (given, log) => settleTimeout (override environment (defaults.putAll given)) log
  | .error container => ⟨defaults, [], some (.tooDeep container)⟩

inductive Fault
  | versionNotText (typeName : String)
  | address (fault : AddressFault)
  deriving DecidableEq

def Fault.message : Fault → String
  | versionNotText typeName => s!"'{typeName}' object has no attribute 'startswith'"
  | address fault => fault.message

/-- A setting that counts as given: null stands for one that is absent or counts as false. -/
def given (s : SettingMap) (name : String) : Value :=
  match s.get? name with
  | some v => if v.truthy then v else .null
  | none => .null

def daemonAddress (s : SettingMap) : Value := given s "docker_socket_path"

def timeout (s : SettingMap) : Value := (s.get? "timeout").getD .null

/-- The pinned version as set, without one leading letter v. -/
def apiVersion (s : SettingMap) : Except Fault Value :=
  match given s "api_version" with
  | .null => .ok .null
  | .text v => .ok (.text (match v.toList with
    | 'v' :: rest => String.ofList rest
    | _ => v))
  | v => .error (.versionNotText v.typeName)

/-- The level of logging as set, in upper case. -/
def logLevel (s : SettingMap) : String := Text.upper ((s.get? "log_level").getD (.text "WARNING")).shown

def client (w : Surroundings) (s : SettingMap) : Except Fault Client := do
  let version ← apiVersion s
  let address ← (Address.choose w (daemonAddress s)).mapError .address
  return ⟨address, timeout s, version⟩

/-- A path below a directory: one slash between them, none if the directory is empty or ends in one. -/
def join (directory tail : String) : String :=
  if directory == "" then tail
  else if directory.toList.getLast? == some '/' then directory ++ tail
  else directory ++ "/" ++ tail

/-- The settings file of the user, below the configuration directory that the platform's variable names, else below
the home directory. -/
def userPath (w : Surroundings) (windows : Bool) : String :=
  let directory :=
    if windows then (w.lookup? "APPDATA").getD (w.underHome "")
    else (w.lookup? "XDG_CONFIG_HOME").getD (w.underHome "/.config")
  join directory "docker-netapi/settings.json"

end Settings
end DaemonClient
