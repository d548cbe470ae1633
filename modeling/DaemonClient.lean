import DaemonClient.Client.Arguments
import DaemonClient.Proofs.Addresses
import DaemonClient.Proofs.Documents
import DaemonClient.Proofs.Elementwise
import DaemonClient.Proofs.Loading
import DaemonClient.Proofs.MemberNames
import DaemonClient.Proofs.OwnErrors
import DaemonClient.Proofs.Parity
import DaemonClient.Proofs.Serialization
import DaemonClient.Proofs.Spelling
import DaemonClient.Proofs.Statuses
import DaemonClient.Proofs.Targets
import DaemonClient.Proofs.Unchecked
import DaemonClient.Proofs.Unforged
import DaemonClient.Proofs.WireKeys
import DaemonClient.Settings.Basic
import DaemonClient.Proofs.Canonical
import DaemonClient.Proofs.Construction
import DaemonClient.Proofs.Creations
import DaemonClient.Proofs.Explanations
import DaemonClient.Proofs.Failures
import DaemonClient.Proofs.QueryPairs
import DaemonClient.Proofs.Schemes
