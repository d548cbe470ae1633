import DaemonClient.Http.Request
import DaemonClient.Http.Fault

/-! The octets of a request on an HTTP/1.1 connection. The request line is looked at before anything is sent: no
control character in the method, no blank or control character in the target, nothing beyond ASCII. So the line that
goes out is one line, and it says what the request says. -/

namespace DaemonClient

/-- Control characters that no method may have. -/
def isControl (c : Char) : Bool := c.val ≤ 0x1F

/-- Characters that neither a target nor a host may have: blanks and control characters of ASCII. -/
def breaksTarget (c : Char) : Bool := c.val ≤ 0x20 || c.val == 0x7F

def isWide (c : Char) : Bool := 0x80 ≤ c.val

namespace Request

/-- The target as sent: a slash for an empty one. -/
def sentTarget (target : String) : String := if target == "" then "/" else target

def line (method target : String) : List Char :=
  method.toList ++ ' ' :: ((sentTarget target).toList ++ " HTTP/1.1".toList)

def lineFault? (method target : String) : Option TransportFault :=
  match method.toList.find? isControl with
  | some c => some (.controlInMethod method c)
  | none =>
    match (sentTarget target).toList.find? breaksTarget with
    | some c => some (.controlInTarget (sentTarget target) c)
    | none =>
      let cs := line method target
      match cs.dropWhile (!isWide ·) with
      | [] => none
      | c :: rest => some (.wideRequestLine c (cs.takeWhile (!isWide ·)).length (rest.takeWhile isWide).length.succ)

/-- Methods that announce an empty body when they have none. -/
def announcesNoBody (method : String) : Bool :=
  ["PATCH", "POST", "PUT"].contains (String.ofList (method.toList.map Char.toUpper))

def sentHeaders (r : Request) : List Header :=
  ("Accept-Encoding", "identity") ::
    (if r.body.isNone && announcesNoBody r.method then [("Content-Length", "0")] else []) ++ r.outgoingHeaders

def headerLine (h : Header) : List Char := h.1.toList ++ ':' :: ' ' :: (h.2.toList ++ ['\r', '\n'])

/-- The head of a request: its line, its headers and an empty line. -/
def head (r : Request) (target : String) : List Char :=
  line r.method target ++ '\r' :: '\n' :: (r.sentHeaders.flatMap headerLine ++ ['\r', '\n'])

/-- The octets of a request. The head is ASCII. -/
def octets (r : Request) (target : String) : List UInt8 :=
  (r.head target).map (fun c => UInt8.ofNat c.toNat) ++ r.body.getD []

end Request
end DaemonClient
