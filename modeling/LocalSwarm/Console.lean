import LocalSwarm.Command
import LocalSwarm.Simulation.Loopback

/-! The console of a service: what it shows its user, line by line. -/
namespace LocalSwarm

structure Console where
  host : Simulation.Loopback
  service : Service

/-- What a line leads to: what is shown, and the console that awaits the next line, unless the user
has quit. -/
structure Turn where
  shown : List String
  next : Option Console

namespace Console

def help : List String := [
  "    h                                   shows this help message",
  "    a                                   announce ourselves on the network",
  "    c                                   list known contacts",
  "    i                                   show the service state",
  "    p <KEY> <VALUE>                     store a value on the network",
  "    g <KEY>                             look a value up",
  "    d <DIR> <BUCKET> <PREFIX> <NAME> <SIZE> <VERSION>",
  "                                        download a file into DIR",
  "    q                                   quit",
  "",
  "    KEY is either 40 hex digits or '#' followed by text to hash.",
  "    PREFIX is '-' for files at the root of the bucket."]

/-- Buckets and folders take turns. A bucket without a folder is passed over. -/
def pairs : List String → List (String × String)
  | bucket :: folder :: rest => (bucket, folder) :: pairs rest
  | _ => []

def sharing (pair : String × String) : String :=
  s!"sharing {pair.2} as bucket {Text.quoted pair.1}"

def provider (shared : List (String × String)) : Files.Provider :=
  .folders (shared.foldl (fun folders (bucket, path) => folders.share bucket path) .empty)

/-- A service without neighbours that shares folders. The number is that of its announcement. -/
def start (settings : Settings) (id : Identifier) (shared : List (String × String))
    (number : UInt32) : Except Fault Turn := do
  let shown := shared.map sharing
  match ← (Simulation.Loopback.empty .empty).start "" settings id (provider shared) (.ok []) [] with
  | (_, .error e) => return ⟨shown ++ [e.message], none⟩
  | (host, .ok service) =>
    let address := (service.settings.bindAddress.atPort service.node.self.port).render
    let announced := if service.canAnnounce
      then s!"announced ourselves (correlation id {number.toNat})"
      else "discovery is disabled"
    return ⟨shown ++ [s!"listening on {address} as {id.shortHex} ({service.node.self.machine})",
      announced], some ⟨host, service⟩⟩

def reportLines (r : Service.Report) : List String := [
  s!"running: {r.running}",
  s!"bootstrapped: {r.bootstrapped}",
  s!"good contacts: {r.good}",
  s!"questionable contacts: {r.questionable}",
  s!"buckets: {r.buckets}",
  "listeners: " ++ String.intercalate ", " (r.listeners.map SocketAddr.render)]

/-- Bytes as a text, or as hexadecimal digits where they are none. -/
def display (bytes : Bytes) : String :=
  (String.fromUTF8? ⟨bytes.toArray⟩).getD (Bytes.hex bytes)

/-- The service carries out a plan, and what comes of it is told. -/
def perform {α : Type} (c : Console) (p : Plan α) (tell : α → String) : Except Fault Turn := do
  let (host, service, result) ← c.host.perform c.service p
  return ⟨(result.map tell).toList, some ⟨host, service⟩⟩

/-- Carry out a command. The number is that of an announcement or of a part file. -/
def carryOut (c : Console) (number : UInt32) : Command → Except Fault Turn
  | .help => return ⟨help, some c⟩
  | .announce =>
    return ⟨[if c.service.canAnnounce then s!"announced (correlation id {number.toNat})"
      else "discovery is disabled"], some c⟩
  | .contacts => return ⟨(c.service.node.table.online 0).map Peer.describe, some c⟩
  | .state => return ⟨((c.service.report? 0).map reportLines).getD [], some c⟩
  | .put key value =>
    c.perform (Lookup.storeValue c.service.pace key (Wire.utf8 value)) fun count =>
      s!"stored on {count} contacts"
  | .get key =>
    c.perform (Lookup.findValue c.service.pace key) fun
      | .value bytes => s!"found: {display bytes}"
      | .contacts _ => "not found"
  | .download request =>
    c.perform (c.service.download request number).plan fun
      | .ok path => s!"saved {Text.quoted path}"
      | .error e => s!"download failed: {e.message}"
  | .quit => return ⟨[], none⟩

def answer (c : Console) (number : UInt32) (line : String) : Except Fault Turn :=
  match Command.ofLine line with
  | some command => c.carryOut number command
  | none => .ok ⟨["invalid command (use 'h' for help)"], some c⟩

end Console
end LocalSwarm
