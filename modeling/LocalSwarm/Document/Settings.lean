import LocalSwarm.Command
import LocalSwarm.Document.Values
import LocalSwarm.Settings

/-! Settings and commands in documents. -/
namespace LocalSwarm.Document

/-- The first and the last of a span of ports, and how many there are. -/
def ofPorts (first last : Nat) : Document := list [ofNat first, ofNat last, ofNat (last - first + 1)]

def ofNanoseconds (s : Span) : Document := text (toString s)

def ofSettings (s : Settings) : Document :=
  record [("machine_id", text (s.machine.getD "<random>")),
    ("protocol_version", ofNat s.version.toNat), ("multicast_v4", text (s.group .v4).render),
    ("multicast_v6", text (s.group .v6).render), ("discovery_port", ofNat s.discoveryPort.toNat),
    ("tcp_port", ofNat s.servicePort.toNat), ("alternate_ports", ofNat s.alternatePorts.toNat),
    ("tcp_bind_ip", text s.bindAddress.render),
    ("ip_versions", list (s.versions.map fun
      | .v4 => text "V4"
      | .v6 => text "V6")),
    ("discovery_enabled", truth s.discovery), ("duplicate_window", ofNanoseconds s.duplicateWindow),
    ("interface_poll_interval", ofNanoseconds s.pollInterval),
    ("rpc_timeout", ofNanoseconds s.requestTimeout),
    ("refresh_interval", ofNanoseconds s.refreshInterval), ("bucket_size", ofNat s.bucketSlots),
    ("lookup_alpha", ofNat s.lookupWidth), ("max_lookup_rounds", ofNat s.lookupRounds),
    ("max_chunk_size", ofNat s.chunkLimit), ("max_parallel", ofNat s.parallelLimit),
    ("max_repartition_rounds", ofNat s.downloadRounds),
    ("discovery_ports()", ofPorts s.discoveryPorts.1 s.discoveryPorts.2),
    ("tcp_ports()", ofPorts s.servicePorts.1 s.servicePorts.2),
    ("groups()", list [text (s.group .v4).render, text (s.group .v6).render])]

def commandFields : Command → List (String × Document)
  | .help => [("command", text "Help")]
  | .announce => [("command", text "Announce")]
  | .contacts => [("command", text "Contacts")]
  | .state => [("command", text "State")]
  | .put key value => [("command", text "Put"), ("key", ofIdentifier key), ("value", text value)]
  | .get key => [("command", text "Get"), ("key", ofIdentifier key)]
  | .download r => [("command", text "Download"), ("folder", text r.folder),
      ("bucket", text r.bucket), ("prefix", text r.path), ("name", text r.name),
      ("size", ofNat r.size.toNat), ("version", text r.version)]
  | .quit => [("command", text "Quit")]

end LocalSwarm.Document
