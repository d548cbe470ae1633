import DaemonClient.Http.Percent

/-! Numeric network addresses as text: four decimal parts, or up to eight hexadecimal parts with one gap. -/

namespace DaemonClient.Ip

/-- A decimal part: up to three ASCII digits without leading zero, at most 255. -/
def isDecimalPart (cs : List Char) : Bool :=
  !cs.isEmpty && cs.all isAsciiDigit && cs.length ≤ 3 && !(cs.head? == some '0' && 1 < cs.length) &&
    asciiValue cs ≤ 255

/-- Four decimal parts between points. -/
def isV4 (cs : List Char) : Bool :=
  let parts := Percent.split '.' cs
  parts.length == 4 && parts.all isDecimalPart

/-- A hexadecimal part: one to four digits. -/
def isHexPart (cs : List Char) : Bool := !cs.isEmpty && cs.length ≤ 4 && cs.all fun c => (hexValue? c).isSome

/-- The parts between colons; four decimal parts at the end stand for two. -/
def v6Parts (cs : List Char) : Option (List (List Char)) :=
  let parts := Percent.split ':' cs
  match parts.getLast? with
  | some last =>
    if last.contains '.' then if isV4 last then some (parts.dropLast ++ [['0'], ['0']]) else none
    else some parts
  | none => none

/-- The positions of empty parts, the first and the last part left out. -/
def gaps (parts : List (List Char)) : List Nat :=
  (List.range parts.length).filter fun i => 0 < i && i + 1 < parts.length && (parts.getD i []).isEmpty

/-- Eight hexadecimal parts, or fewer around one gap. A gap at either end shows as two empty parts. -/
def areV6Parts (parts : List (List Char)) : Bool :=
  match gaps parts with
  | [] => parts.length == 8 && parts.all isHexPart
  | [gap] =>
    let before := parts.take gap
    let after := parts.drop (gap + 1)
    let high := if before.head? == some [] then before.tail else before
    let low := if after.getLast? == some [] then after.dropLast else after
    (before.head? != some [] || high.isEmpty) && (after.getLast? != some [] || low.isEmpty) &&
      high.length + low.length < 8 && high.all isHexPart && low.all isHexPart
  | _ => false

/-- A hexadecimal address, with or without a zone after a percent sign. -/
def isV6 (cs : List Char) : Bool :=
  let address := cs.takeWhile (· != '%')
  let zoneFits := match cs.dropWhile (· != '%') with
    | [] => true
    | _ :: zone => !zone.isEmpty && !zone.contains '%'
  let parts := Percent.split ':' address
  zoneFits && 3 ≤ parts.length &&
    match v6Parts address with
    | some parts => parts.length ≤ 9 && areV6Parts parts
    | none => false

example : isV6 "::1".toList = true := by decide +kernel
example : isV6 "fe80::1%eth0".toList = true := by decide +kernel
example : isV6 "1::2::3".toList = false := by decide +kernel
example : isV4 "10.0.0.256".toList = false := by decide +kernel

end DaemonClient.Ip
