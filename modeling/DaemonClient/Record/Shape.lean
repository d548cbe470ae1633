import DaemonClient.Value.Basic

/-! The shapes of records: for every kind its fields in order, each with its name on the wire, its name in programs,
what it holds and what stands there when nothing is given. All that is known about a kind is in these tables, so a
statement about all kinds is one induction over shapes. -/

namespace DaemonClient

/-- What stands in a field that is not given. A raw value is looked at like a given one, unless it is ready. -/
structure Fallback where
  value : Value
  ready : Bool := true

/-- A field of a record, without what it holds. -/
structure Slot where
  attr : String
  wire : String
  fallback : Option Fallback := none
  nullMeansEmpty : Bool := false

/-- What a field or a record may hold. Text and the keys of maps take the form of the record's text. -/
inductive Shape
  | flag
  | count
  | text
  | optional (of : Shape)
  | list (of : Shape)
  | map (of : Shape)
  | record (kind : RecordKind) (fields : List (Slot × Shape))

namespace Shape

/-- A field that has to be given. -/
def required (attr wire : String) (shape : Shape) : Slot × Shape := (⟨attr, wire, none, false⟩, shape)

/-- A field that is false unless given. -/
def flagField (attr wire : String) : Slot × Shape := (⟨attr, wire, some ⟨.bool false, true⟩, false⟩, .flag)

/-- A field that is null unless given. -/
def optionalField (attr wire : String) (shape : Shape) : Slot × Shape :=
  (⟨attr, wire, some ⟨.null, true⟩, false⟩, .optional shape)

/-- A text field with a fallback that takes the record's form of text. -/
def textField (attr wire fallback : String) : Slot × Shape :=
  (⟨attr, wire, some ⟨.text fallback, false⟩, false⟩, .text)

/-- A list field that is empty unless given. -/
def listField (attr wire : String) (of : Shape) : Slot × Shape :=
  (⟨attr, wire, some ⟨.list [], true⟩, false⟩, .list of)

/-- A map field that is empty unless given. -/
def mapField (attr wire : String) (of : Shape) : Slot × Shape :=
  (⟨attr, wire, some ⟨.map [], true⟩, false⟩, .map of)

/-- A field with a record of its own, built from an empty map unless given. -/
def partField (attr wire : String) (shape : Shape) : Slot × Shape :=
  (⟨attr, wire, some ⟨.map [], false⟩, false⟩, shape)

def subnetSettings : Shape := .record .subnetSettings [
  optionalField "subnet" "Subnet" .text,
  optionalField "ip_range" "IPRange" .text,
  optionalField "gateway" "Gateway" .text,
  optionalField "aux_address" "AuxiliaryAddresses" (.map .text)]

/-- The subnets of address settings keep their order, and null stands for none. -/
def addressSettings : Shape := .record .addressSettings [
  textField "driver" "Driver" "default",
  (⟨"config", "Config", some ⟨.list [], true⟩, true⟩, .list subnetSettings),
  optionalField "options" "Options" (.map .text)]

def createOptions : Shape := .record .createOptions [
  required "name" "Name" .text,
  flagField "check_duplicate" "CheckDuplicate",
  textField "driver" "Driver" "bridge",
  flagField "internal" "Internal",
  flagField "attachable" "Attachable",
  flagField "ingress" "Ingress",
  partField "ipam" "IPAM" addressSettings,
  flagField "enable_ipv6" "EnableIPv6",
  mapField "options" "Options" .text,
  mapField "labels" "Labels" .text]

def createReport : Shape := .record .createReport [
  required "id" "Id" .text,
  textField "warning" "Warning" ""]

def inspectOptions : Shape := .record .inspectOptions [
  flagField "verbose" "Verbose",
  textField "scope" "Scope" ""]

def containerReport : Shape := .record .containerReport [
  textField "name" "Name" "",
  optionalField "endpoint_id" "EndpointID" .text,
  optionalField "mac_address" "MacAddress" .text,
  optionalField "ipv4_address" "IPv4Address" .text,
  optionalField "ipv6_address" "IPv6Address" .text]

/-- The address settings of a report that has none. -/
def noAddressSettings : Value :=
  .record .addressSettings .given [("driver", .text "default"), ("config", .list []), ("options", .null)] []

def networkFields : List (Slot × Shape) := [
  required "name" "Name" .text,
  required "id" "Id" .text,
  textField "created" "Created" "",
  textField "scope" "Scope" "",
  textField "driver" "Driver" "",
  flagField "enable_ipv6" "EnableIPv6",
  (⟨"ipam", "IPAM", some ⟨noAddressSettings, true⟩, false⟩, addressSettings),
  flagField "internal" "Internal",
  flagField "attachable" "Attachable",
  flagField "ingress" "Ingress",
  mapField "containers" "Containers" containerReport,
  mapField "options" "Options" .text,
  mapField "labels" "Labels" .text,
  mapField "config_from" "ConfigFrom" .text,
  flagField "config_only" "ConfigOnly"]

def networkReport : Shape := .record .networkReport networkFields

def listedNetwork : Shape := .record .listedNetwork networkFields

def listOptions : Shape := .record .listOptions [mapField "filters" "Filters" (.list .text)]

def endpointAddresses : Shape := .record .endpointAddresses [
  optionalField "ipv4_address" "IPv4Address" .text,
  optionalField "ipv6_address" "IPv6Address" .text,
  optionalField "link_local_ips" "LinkLocalIPs" (.list .text)]

def endpointSettings : Shape := .record .endpointSettings [
  partField "ipam_config" "IPAMConfig" endpointAddresses,
  listField "links" "Links" .text,
  listField "aliases" "Aliases" .text,
  optionalField "network_id" "NetworkID" .text,
  optionalField "endpoint_id" "EndpointID" .text,
  optionalField "gateway" "Gateway" .text,
  optionalField "ip_address" "IPAddress" .text,
  optionalField "ip_prefix_len" "IPPrefixLen" .count,
  optionalField "ipv6_gateway" "IPv6Gateway" .text,
  optionalField "global_ipv6_address" "GlobalIPv6Address" .text,
  optionalField "global_ipv6_prefix_len" "GlobalIPv6PrefixLen" .count,
  optionalField "mac_address" "MacAddress" .text,
  optionalField "driver_opts" "DriverOpts" (.map .text)]

def connectOptions : Shape := .record .connectOptions [
  required "container" "Container" .text,
  partField "endpoint_config" "EndpointConfig" endpointSettings]

def disconnectOptions : Shape := .record .disconnectOptions [
  required "container" "Container" .text,
  flagField "force" "Force"]

def pruneOptions : Shape := .record .pruneOptions [mapField "filters" "Filters" (.list .text)]

def pruneReport : Shape := .record .pruneReport [
  optionalField "networks_deleted" "NetworksDeleted" (.list .text)]

end Shape

namespace RecordKind

def shape : RecordKind → Shape
  | subnetSettings => Shape.subnetSettings
  | addressSettings => Shape.addressSettings
  | createOptions => Shape.createOptions
  | createReport => Shape.createReport
  | inspectOptions => Shape.inspectOptions
  | containerReport => Shape.containerReport
  | networkReport => Shape.networkReport
  | listedNetwork => Shape.listedNetwork
  | listOptions => Shape.listOptions
  | endpointAddresses => Shape.endpointAddresses
  | endpointSettings => Shape.endpointSettings
  | connectOptions => Shape.connectOptions
  | disconnectOptions => Shape.disconnectOptions
  | pruneOptions => Shape.pruneOptions
  | pruneReport => Shape.pruneReport

def fields (k : RecordKind) : List (Slot × Shape) :=
  match k.shape with
  | .record _ fs => fs
  | _ => []

def slots (k : RecordKind) : List Slot := k.fields.map (·.1)

end RecordKind
end DaemonClient
