/-! The kinds of records that go to the daemon and come back from it, and the ways a record may hold its text. -/

namespace DaemonClient

/-- How a record holds text: as characters, as octets, or each piece as it was given. -/
inductive TextForm
  | given
  | characters
  | octets
  deriving DecidableEq, Repr

/-- The kinds of records. Options go to the daemon with one call, settings are parts of options, and reports come
back. -/
inductive RecordKind
  | subnetSettings
  | addressSettings
  | createOptions
  | createReport
  | inspectOptions
  | containerReport
  | networkReport
  | listedNetwork
  | listOptions
  | endpointAddresses
  | endpointSettings
  | connectOptions
  | disconnectOptions
  | pruneOptions
  | pruneReport
  deriving DecidableEq, Repr

namespace RecordKind

def name : RecordKind → String
  | subnetSettings => "IPAMConfig"
  | addressSettings => "IPAM"
  | createOptions => "CreateNetworkOptions"
  | createReport => "CreateNetworkResults"
  | inspectOptions => "InspectNetworkOptions"
  | containerReport => "InspectNetworkResultsContainers"
  | networkReport => "InspectNetworkResults"
  | listedNetwork => "ListNetworksResults"
  | listOptions => "ListNetworksOptions"
  | endpointAddresses => "EndpointIPAMConfig"
  | endpointSettings => "EndpointSettings"
  | connectOptions => "ConnectNetworkOptions"
  | disconnectOptions => "DisconnectNetworkOptions"
  | pruneOptions => "PruneNetworksOptions"
  | pruneReport => "PruneNetworksResults"

def all : List RecordKind :=
  [subnetSettings, addressSettings, createOptions, createReport, inspectOptions, containerReport, networkReport,
    listedNetwork, listOptions, endpointAddresses, endpointSettings, connectOptions, disconnectOptions, pruneOptions,
    pruneReport]

/-- Reports come from the daemon: their text is characters, and null members of their objects count as absent. -/
def isReport : RecordKind → Bool
  | createReport | containerReport | networkReport | listedNetwork | pruneReport => true
  | _ => false

/-- Options belong to one call and can be asked for their query. -/
def isOptions : RecordKind → Bool
  | createOptions | inspectOptions | listOptions | connectOptions | disconnectOptions | pruneOptions => true
  | _ => false

/-- The kind with a public name. -/
def ofName? (s : String) : Option RecordKind := all.find? fun k => k.name == s

/-- The public name with the form in which a record holds its text. A report has one form only and does not say. -/
def nameWith (k : RecordKind) (form : TextForm) : String :=
  if k.isReport then k.name
  else match form with
    | .given => k.name
    | .characters => k.name ++ "[str]"
    | .octets => k.name ++ "[bytes]"

end RecordKind
end DaemonClient
