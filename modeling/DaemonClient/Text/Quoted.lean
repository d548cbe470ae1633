import DaemonClient.Text.Printable

/-! Quoted text and octets. The quote is single unless the content has a single quote and no double one; backslash,
the quote itself and what is not printable are escaped. -/

namespace DaemonClient.Text

/-- Hexadecimal digits of a number in lower case, filled with zeros to a width. -/
def hexDigits (width n : Nat) : List Char :=
  let ds := Nat.toDigits 16 n
  List.replicate (width - ds.length) '0' ++ ds

def quoteFor (single double : Bool) : Char := if single && !double then '"' else '\''

/-- An unprintable code point as an escape of two, four or eight digits. -/
def escapeCode (n : Nat) : List Char :=
  if n < 0x100 then '\\' :: 'x' :: hexDigits 2 n
  else if n < 0x10000 then '\\' :: 'u' :: hexDigits 4 n
  else '\\' :: 'U' :: hexDigits 8 n

def quoteChar (quote : Char) (c : Char) : List Char :=
  if c == quote || c == '\\' then ['\\', c]
  else if c == '\n' then ['\\', 'n']
  else if c == '\r' then ['\\', 'r']
  else if c == '\t' then ['\\', 't']
  else if isPrintable c then [c]
  else escapeCode c.toNat

def quoted (s : String) : String :=
  let cs := s.toList
  let quote := quoteFor (cs.contains '\'') (cs.contains '"')
  String.ofList (quote :: (cs.flatMap (quoteChar quote) ++ [quote]))

/-- One octet inside quotes: ASCII as a character, any other octet as an escape. -/
def quoteOctet (quote : Char) (b : UInt8) : List Char :=
  if b < 0x7F then quoteChar quote (Char.ofNat b.toNat) else escapeCode b.toNat

/-- Octets in quotes, by what each of them is inside these quotes, marked by a letter b in front. -/
def quotedOctetsBy (inside : Char → UInt8 → List Char) (bs : List UInt8) : String :=
  let quote := quoteFor (bs.contains 0x27) (bs.contains 0x22)
  String.ofList ('b' :: quote :: (bs.flatMap (inside quote) ++ [quote]))

def quotedOctets (bs : List UInt8) : String := quotedOctetsBy quoteOctet bs

/-- A buffer of octets in quotes: a single quote is escaped inside either kind of quotes. -/
def quotedBuffer (bs : List UInt8) : String :=
  quotedOctetsBy (fun quote b => if b = 0x27 then ['\\', '\''] else quoteOctet quote b) bs

example : quoted "it's" = "\"it's\"" := by decide +kernel
example : quoted "a\n\u0000" = "'a\\n\\x00'" := by decide +kernel
example : quotedOctets [0xFE, 0x27] = "b\"\\xfe'\"" := by decide +kernel
example : quotedBuffer [0xFE, 0x27] = "b\"\\xfe\\'\"" := by decide +kernel

end DaemonClient.Text
