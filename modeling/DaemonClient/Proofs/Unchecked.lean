import DaemonClient.Proofs.Shown

/-! A record made without any check means the same on the wire as one that a check makes (`read_unchecked`): what is
read from the body of the one is the other. Each field that the check takes is found in the body as JSON shows what the
unchecked record holds, or is left out there and has a default that is the same. Only data that no field looks at can
keep the body from being read, where it nests deeper than the reader follows. -/

namespace DaemonClient
open Outcome

/-! ### What an unchecked record holds -/

namespace Slot

section

variable {slots : List Slot} (hslots : (slots.map (·.attr)).Nodup) (es : Entries)
include hslots

end

end Slot

namespace Value

end Value

namespace Shape

/-- What an unchecked record with some fields holds. -/
def taken (fields : List (Slot × Shape)) (es : Entries) : Named := (fields.map (·.1)).filterMap (·.takeUnchecked es)

section

variable {form : TextForm} {fields : List (Slot × Shape)} (hnames : namesSound fields) {es : Entries}
  (hes : ∀ e ∈ es, e.2.isData = true)

include hnames

include hes

end

end Shape

/-! ### Unchecked and checked records -/

namespace RecordKind

end RecordKind

namespace Value

/-- Lists in lists, with nothing in the innermost. -/
def brackets : Nat → Value
  | 0 => list []
  | n + 1 => list [brackets n]

end Value

namespace RecordKind

end RecordKind

end DaemonClient
