/-! What the machine decides that the client runs on. -/

namespace DaemonClient

/-- A machine: how far the text of an error or of settings is followed into its arrays and objects, which depends on
the limit of nested calls and on how many of them are open where the text is read; how much memory there is; and what
half of a UTF-16 pair is in a text. -/
class Machine where
  /-- How many arrays and objects may be open at once in the text of an error or of settings. -/
  textDepth : Nat
  /-- The longest run of octets that memory holds. -/
  memory : Nat
  /-- The character that stands for a surrogate without its other half. Texts of the machine may hold one, the texts
  here hold characters only. Nothing is assumed of the stand-ins: they may be taken for characters of their own that no
  other text has. -/
  standIn : Nat → Char

/-- A machine with a stack that is hardly used and memory for every length that is a word. The stand-ins are characters
for private use. -/
instance (priority := low) Machine.usual : Machine where
  textDepth := 990
  memory := 0x7FFFFFFFFFFFFFFF
  standIn unit := Char.ofNat (0xF0000 + unit)

end DaemonClient
