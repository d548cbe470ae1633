import DaemonClient.Value.Literal
import DaemonClient.Text.Arity
import DaemonClient.Text.Utf8

/-! Failures that are raised by name and arguments. Their words depend on the family of the name, and some cannot be
made of all arguments. Then what is wrong with the arguments is a failure too and takes their place, so that a `Failure`
can always be made and told. -/

namespace DaemonClient

def lineLimit : Nat := 65536

def shortBodyText (read : Nat) (missing : Option String) : String :=
  match missing with
  | some n => s!"IncompleteRead({read} bytes read, {n} more expected)"
  | none => s!"IncompleteRead({read} bytes read)"

/-- A failure by its name and arguments. -/
structure Raised where
  name : String
  arguments : List Value

namespace Raised

def systemNames : List String :=
  ["OSError", "IOError", "EnvironmentError", "BlockingIOError", "ChildProcessError", "ConnectionError",
    "BrokenPipeError", "ConnectionAbortedError", "ConnectionRefusedError", "ConnectionResetError", "FileExistsError",
    "FileNotFoundError", "InterruptedError", "IsADirectoryError", "NotADirectoryError", "PermissionError",
    "ProcessLookupError", "TimeoutError", "timeout", "gaierror", "herror", "RemoteDisconnected"]

def protocolNames : List String :=
  ["HTTPException", "NotConnected", "InvalidURL", "UnknownProtocol", "UnknownTransferEncoding",
    "UnimplementedFileMode", "IncompleteRead", "ImproperConnectionState", "CannotSendRequest", "CannotSendHeader",
    "ResponseNotReady", "BadStatusLine", "LineTooLong"]

/-- Failures of the operating system and of the protocol count as failed transport. -/
def isTransport (r : Raised) : Bool := systemNames.contains r.name || protocolNames.contains r.name

/-! ### Arguments that a failure tells -/

/-- The number of items of a value that has items. -/
def size? : Value → Option Nat
  | .text s => some s.length
  | .octets _ bs => some bs.length
  | .list xs | .tuple xs => some xs.length
  | .map es => some es.length
  | _ => none

/-- The words for a number, towards zero. A tuple stands for the one number in it. -/
def countText : Value → String
  | .bool b | .tuple [.bool b] => if b then "1" else "0"
  | .float x | .tuple [.float x] => (Value.int x.truncate).shown
  | .tuple [v] => v.shown
  | v => v.shown

/-- The words for a failure by its arguments: one stands for itself, several as a tuple. -/
def argumentsText : List Value → String
  | [] => ""
  | [v] => v.shown
  | vs => (Value.tuple vs).literal

/-- The files that a failure of the system names: the first, and the second of two if it names a first. What stands
between them counts for nothing. -/
def filesText : List Value → String
  | [] | .null :: _ => ""
  | [path, _, .null] => ": " ++ path.literal
  | [path, _, other] => s!": {path.literal} -> {other.literal}"
  | path :: _ => ": " ++ path.literal

/-- Numbers of the system's failures to wait. -/
def waitNumbers : List Int := [11, 114, 115]

/-- A failure to wait: by its own name, or by its number if the name is a general one. -/
def isWait (r : Raised) : Bool :=
  r.name == "BlockingIOError" ||
    (["OSError", "IOError", "EnvironmentError"].contains r.name &&
      match r.arguments with
      | .int n :: _ => waitNumbers.contains n
      | _ => false)

/-- A number in place of the files: a failure to wait tells how much was done before it. -/
def progress? (r : Raised) : Option Value :=
  match r.arguments with
  | _ :: _ :: v :: rest =>
    match v with
    | .int _ | .bool _ | .float _ => if r.isWait && rest.length ≤ 2 then some v else none
    | _ => none
  | _ => none

/-- The words for a failure of the system: an error number, its text and files, if the arguments are two to five. -/
def systemText (r : Raised) : String :=
  match r.arguments with
  | number :: text :: files =>
    if 3 < files.length then argumentsText r.arguments
    else s!"[Errno {number.shown}] {text.shown}" ++ if r.progress?.isSome then "" else filesText files
  | _ => argumentsText r.arguments

/-- A character that cannot be written in ASCII, as an escape. -/
def wideText (c : Char) : String := String.ofList (Text.escapeCode c.toNat)

/-- The words for octets or characters that a coding cannot do: a single one is shown, of a run the positions. -/
def codingText (coding action unit : String) (single? : Option String) (start stop : Int) (reason : String) : String :=
  match single? with
  | some single => s!"'{coding}' codec can't {action} {unit} {single} in position {start}: {reason}"
  | none => s!"'{coding}' codec can't {action} {unit}s in position {start}-{stop - 1}: {reason}"

/-- The item of a run that is a single one. -/
def single? {α : Type} (xs : List α) (start stop : Int) : Option α :=
  if 0 ≤ start ∧ stop = start + 1 then xs[start.toNat]? else none

def text (r : Raised) : String :=
  if systemNames.contains r.name then r.systemText
  else match r.name, r.arguments with
    | "LineTooLong", [part] => s!"got more than {lineLimit} bytes when reading {part.shown}"
    | "IncompleteRead", [read] | "IncompleteRead", [read, .null] => shortBodyText ((size? read).getD 0) none
    | "IncompleteRead", [read, missing] => shortBodyText ((size? read).getD 0) (some (countText missing))
    | "BadStatusLine", [line] => if line.truthy then line.shown else line.literal
    | "KeyError", [key] => key.literal
    | "UnicodeDecodeError", [.text coding, .octets _ bs, start, stop, .text reason] =>
      let start := start.asIndex?.getD 0
      let stop := stop.asIndex?.getD 0
      let single := (single? bs start stop).map fun b => "0x" ++ Utf8.hexOctet b
      codingText coding "decode" "byte" single start stop reason
    | "UnicodeEncodeError", [.text coding, .text s, start, stop, .text reason] =>
      let start := start.asIndex?.getD 0
      let stop := stop.asIndex?.getD 0
      let single := (single? s.toList start stop).map fun c => s!"'{wideText c}'"
      codingText coding "encode" "character" single start stop reason
    | _, vs => argumentsText vs

/-! ### Arguments that a failure cannot be made of -/

inductive FlawKind
  | type
  | value
  | overflow

def FlawKind.name : FlawKind → String
  | type => "TypeError"
  | value => "ValueError"
  | overflow => "OverflowError"

/-- What keeps a failure from being made of its arguments, or its words from being told. -/
structure Flaw where
  kind : FlawKind
  message : String

/-- The failure that a flaw is itself, with words only. -/
def Flaw.raised (f : Flaw) : Raised := ⟨f.kind.name, [.text f.message]⟩

/-- The arguments that a failure takes, if it is particular about their number. -/
def arity? (r : Raised) : Option Arity :=
  match r.name with
  | "BadStatusLine" => some ⟨"BadStatusLine.__init__", ["line"], 0⟩
  | "LineTooLong" => some ⟨"LineTooLong.__init__", ["line_type"], 0⟩
  | "UnknownProtocol" => some ⟨"UnknownProtocol.__init__", ["version"], 0⟩
  | "IncompleteRead" => some ⟨"IncompleteRead.__init__", ["partial"], 1⟩
  | _ => none

/-- Why a value is no number to tell. -/
def numberFlaw? : Value → Option Flaw
  | .int _ | .bool _ => none
  | .float x =>
    if x.isNaN then some ⟨.value, "cannot convert float NaN to integer"⟩
    else if x.isInfinite then some ⟨.overflow, "cannot convert float infinity to integer"⟩
    else none
  | v => some ⟨.type, s!"%i format: a real number is required, not {v.typeName}"⟩

/-- Why a value is no count of octets, where null stands for none. -/
def countFlaw? : Value → Option Flaw
  | .null => none
  | .tuple [] => some ⟨.type, "not enough arguments for format string"⟩
  | .tuple [v] => numberFlaw? v
  | .tuple (v :: _) => numberFlaw? v <|> some ⟨.type, "not all arguments converted during string formatting"⟩
  | v => numberFlaw? v

def sizeFlaw? (v : Value) : Option Flaw :=
  if (size? v).isSome then none else some ⟨.type, s!"object of type '{v.typeName}' has no len()"⟩

def indexFlaw? (v : Value) : Option Flaw :=
  if v.asIndex?.isSome then none else some ⟨.type, s!"'{v.typeName}' object cannot be interpreted as an integer"⟩

/-- Why a value is no text for an argument. -/
def textFlaw? (position : Nat) : Value → Option Flaw
  | .text _ => none
  | .null => some ⟨.type, s!"argument {position} must be str, not None"⟩
  | v => some ⟨.type, s!"argument {position} must be str, not {v.typeName}"⟩

def octetsFlaw? : Value → Option Flaw
  | .octets .. => none
  | v => some ⟨.type, s!"a bytes-like object is required, not '{v.typeName}'"⟩

/-- Why a number in place of the files is none. -/
def progressFlaw? : Value → Option Flaw
  | .float _ => some ⟨.type, "'float' object cannot be interpreted as an integer"⟩
  | .int n => if isWord n then none else some ⟨.value, "cannot fit 'int' into an index-sized integer"⟩
  | _ => none

/-- Why a failure to read or write text cannot be made of its arguments, of which there are five. -/
def codingFlaw? (decodes : Bool) : List Value → Option Flaw
  | [coding, subject, start, stop, reason] =>
    textFlaw? 1 coding <|> (if decodes then none else textFlaw? 2 subject) <|> indexFlaw? start <|> indexFlaw? stop <|>
      textFlaw? 5 reason <|> if decodes then octetsFlaw? subject else none
  | vs => some ⟨.type, s!"function takes exactly 5 arguments ({vs.length} given)"⟩

def flaw? (r : Raised) : Option Flaw :=
  match r.arity?.bind fun a => a.misfit? r.arguments.length with
  | some message => some ⟨.type, message⟩
  | none =>
    match r.name, r.arguments with
    | "IncompleteRead", [read] => sizeFlaw? read
    | "IncompleteRead", [read, missing] => countFlaw? missing <|> sizeFlaw? read
    | "UnicodeDecodeError", vs => codingFlaw? true vs
    | "UnicodeEncodeError", vs => codingFlaw? false vs
    | _, _ => r.progress?.bind progressFlaw?

theorem Flaw.flaw?_raised (f : Flaw) : f.raised.flaw? = none := by
  obtain ⟨kind, message⟩ := f
  cases kind <;> rfl

end Raised

/-- A failure that can be made and told. -/
structure Failure extends Raised where
  sound : toRaised.flaw? = none

/-- What comes of raising a failure: the failure itself, or its flaw. -/
def Raised.settled (r : Raised) : Failure :=
  match h : r.flaw? with
  | none => ⟨r, h⟩
  | some f => ⟨f.raised, f.flaw?_raised⟩

end DaemonClient
