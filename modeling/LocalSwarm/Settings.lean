import LocalSwarm.Address.Text
import LocalSwarm.Document
import LocalSwarm.Settings.Seconds

/-! The settings of a node. All have defaults, so a document names only those that differ. -/
namespace LocalSwarm

structure Settings where
  /-- Announcements of our own machine are ignored. Without a name a random one is taken. -/
  machine : Option String
  version : UInt16
  groupV4 : UInt32
  groupV6 : BitVec 128
  discoveryPort : UInt16
  servicePort : UInt16
  /-- How many ports after the first one may be used if it is taken. -/
  alternatePorts : UInt16
  bindAddress : IpAddr
  versions : List IpVersion
  discovery : Bool
  duplicateWindow : Span
  pollInterval : Span
  requestTimeout : Span
  refreshInterval : Span
  bucketSlots : Nat
  lookupWidth : Nat
  lookupRounds : Nat
  chunkLimit : Nat
  parallelLimit : Nat
  downloadRounds : Nat

namespace Settings

def standard : Settings where
  machine := none
  version := 1
  groupV4 := 0xefc04d0f
  groupV6 := 0xff1500000000000000000000efc04d0f#128
  discoveryPort := 17500
  servicePort := 17500
  alternatePorts := 10
  bindAddress := .v4 0
  versions := [.v4, .v6]
  discovery := true
  duplicateWindow := Span.ofSeconds 30
  pollInterval := Span.ofSeconds 10
  requestTimeout := Span.ofSeconds 5
  refreshInterval := Span.ofSeconds 60
  bucketSlots := 20
  lookupWidth := 3
  lookupRounds := 10
  chunkLimit := 1024 * 1024
  parallelLimit := 10
  downloadRounds := 8

def randomMachine (random : UInt64) : String :=
  "machine-" ++ Bytes.hex (Bytes.ofNat 8 random.toNat)

def group (s : Settings) : IpVersion → IpAddr
  | .v4 => .v4 s.groupV4
  | .v6 => .v6 s.groupV6

/-- First and last of the ports to try. Port zero leaves the choice to the host, so that it has no
alternatives. -/
def portSpan (first alternates : UInt16) : Nat × Nat :=
  if first = 0 then (0, 0) else (first.toNat, min (first.toNat + alternates.toNat) 65535)

def discoveryPorts (s : Settings) : Nat × Nat := portSpan s.discoveryPort s.alternatePorts

def servicePorts (s : Settings) : Nat × Nat := portSpan s.servicePort s.alternatePorts

/-! ### Reading -/

/-- Why a document holds no settings. A span beyond all bounds is a fault. -/
inductive ReadError where
  | invalid
  | fault (fault : Fault)

/-- The names under which settings are stored, in the order in which a list gives them. -/
def names : List String :=
  ["machine_id", "protocol_version", "multicast_v4", "multicast_v6", "discovery_port", "tcp_port",
    "alternate_ports", "tcp_bind_ip", "ip_versions", "discovery_enabled", "duplicate_window",
    "interface_poll_interval", "rpc_timeout", "refresh_interval", "bucket_size", "lookup_alpha",
    "max_lookup_rounds", "max_chunk_size", "max_parallel", "max_repartition_rounds"]

def word16? (d : Document) : Option UInt16 := (d.natBelow? UInt16.size).map UInt16.ofNat

def count? (d : Document) : Option Nat := d.natBelow? UInt64.size

def ipV4? (d : Document) : Option UInt32 := do
  match ← IpAddr.ofText? (← d.text?) with
  | .v4 value => some value
  | .v6 _ => none

def ipV6? (d : Document) : Option (BitVec 128) := do
  match ← IpAddr.ofText? (← d.text?) with
  | .v6 value => some value
  | .v4 _ => none

def ip? (d : Document) : Option IpAddr := do IpAddr.ofText? (← d.text?)

/-- A version is written as its name, or as a record in which the name stands for nothing. -/
def ipVersion? : Document → Option IpVersion
  | .text "V4" | .record [("V4", .null)] => some .v4
  | .text "V6" | .record [("V6", .null)] => some .v6
  | _ => none

def ipVersions? (d : Document) : Option (List IpVersion) := do (← d.list?).mapM ipVersion?

def seconds (d : Document) : Except ReadError Span :=
  match d with
  | .number (.ofNat mantissa) places => (Seconds.toSpan mantissa places).mapError .fault
  | _ => .error .invalid

/-- A setting that is named must have its form. -/
def form {α : Type} (value : Option α) (set : α → Settings) : Except ReadError Settings :=
  match value with
  | some a => .ok (set a)
  | none => .error .invalid

/-- Give one of the settings. Names that are not known mean nothing. -/
def assign (s : Settings) (name : String) (d : Document) : Except ReadError Settings :=
  match name with
  | "machine_id" => form d.text? fun v => { s with machine := some v }
  | "protocol_version" => form (word16? d) fun v => { s with version := v }
  | "multicast_v4" => form (ipV4? d) fun v => { s with groupV4 := v }
  | "multicast_v6" => form (ipV6? d) fun v => { s with groupV6 := v }
  | "discovery_port" => form (word16? d) fun v => { s with discoveryPort := v }
  | "tcp_port" => form (word16? d) fun v => { s with servicePort := v }
  | "alternate_ports" => form (word16? d) fun v => { s with alternatePorts := v }
  | "tcp_bind_ip" => form (ip? d) fun v => { s with bindAddress := v }
  | "ip_versions" => form (ipVersions? d) fun v => { s with versions := v }
  | "discovery_enabled" => form d.truth? fun v => { s with discovery := v }
  | "duplicate_window" => return { s with duplicateWindow := ← seconds d }
  | "interface_poll_interval" => return { s with pollInterval := ← seconds d }
  | "rpc_timeout" => return { s with requestTimeout := ← seconds d }
  | "refresh_interval" => return { s with refreshInterval := ← seconds d }
  | "bucket_size" => form (count? d) fun v => { s with bucketSlots := v }
  | "lookup_alpha" => form (count? d) fun v => { s with lookupWidth := v }
  | "max_lookup_rounds" => form (count? d) fun v => { s with lookupRounds := v }
  | "max_chunk_size" => form (count? d) fun v => { s with chunkLimit := v }
  | "max_parallel" => form (count? d) fun v => { s with parallelLimit := v }
  | "max_repartition_rounds" => form (count? d) fun v => { s with downloadRounds := v }
  | _ => .ok s

/-- The settings of a document, field after field. Those that it does not name keep their
defaults. -/
def ofDocument (document : Document) : Except ReadError Settings :=
  match document.named names with
  | some (.record fields) => fields.foldlM (fun s field => s.assign field.1 field.2) standard
  | _ => .error .invalid

end Settings
end LocalSwarm
