import LocalSwarm.Document.Files
import LocalSwarm.Simulation.Script

/-! Scripted peers in documents. Peers refer to each other by their places in a list. -/
namespace LocalSwarm.Document

/-- A peer, by its place in a list or in full. -/
def asPeerAmong (peers : List Peer) (d : Document) : Reading Peer := do
  match d with
  | number .. => expect "no such peer" peers[← asNat d]?
  | _ => asPeer d

/-- Some of the peers, or all of them. -/
def asPeersAmong (peers : List Peer) (d : Document) : Reading (List Peer) :=
  match d with
  | text _ => .ok peers
  | _ => listOf (asPeerAmong peers) d

/-- A peer that is named after its identifier unless it has a name. -/
def asNamedPeer (kind : String) (d : Document) : Reading Peer := do
  let id ← identifierAt d "id"
  return ⟨id, ← textOr d "machine_id" s!"{kind}-{id.shortHex}", ← addressAt d "addr"⟩

def asTransportError (d : Document) : Reading TransportError := do
  match ← asText d with
  | "timeout" => return .timeout
  | "closed" => return .closed
  | "io" => return .io
  | "toolarge" => return .frameTooLarge 99999999
  | "decode" => return .decode .truncated
  | s => refuse s

def asAct (d : Document) : Reading Simulation.Act := do
  if let some cause ← optional asTransportError d "fail" then return .fail cause
  if let some s ← optional asText d "error" then return .refuse s
  if let some r ← optional asResponse d "response" then return .send (.response r)
  if let some r ← optional asRequest d "request" then return .send (.request r)
  return .answer

def asCue (base : Files.Location) (d : Document) : Reading Simulation.Cue := do
  return ⟨← asAct d, ← optional asSender d "sender",
    (← optional asText d "create").map (within base)⟩

def asStored (d : Document) : Reading (Identifier × Bytes) := do
  match ← asList d with
  | [key, value] => return (← asIdentifier key, ← asBytes value)
  | _ => refuse "not a stored value"

def asHeldFile (d : Document) : Reading Simulation.HeldFile := do
  return ⟨← asFileQuery d, ← bytesAt d "data", ← textAt d "version"⟩

def asSpan (d : Document) : Reading Span := return Span.ofMilliseconds (← asNat d)

/-- What is given of a peer, over what it was. A script is continued, and values are added. -/
def asScripted (base : Files.Location) (peers : List Peer) (p : Simulation.ScriptedPeer)
    (d : Document) : Reading Simulation.ScriptedPeer := do
  let files ← optional (listOf asHeldFile) d "files"
  let ownBuckets := (files.map fun fs => (fs.map (·.query.bucket)).eraseDups).getD p.buckets
  let breaksAfter ← optional asNat d "disconnect_after"
  return { p with
    reachable := ← truthOr d "reachable" p.reachable
    version := ← u16 d "version" p.version.toNat
    known := ← fieldOr (asPeersAmong peers) d "known" p.known
    values := (← listAt asStored d "values").reverse ++ p.values
    accepts := ← truthOr d "accepts" p.accepts
    files := files.getD p.files
    buckets := ← fieldOr (repeated asText) d "buckets" ownBuckets
    breaksAfter := breaksAfter.or p.breaksAfter
    served := if breaksAfter.isSome then 0 else p.served
    delay := ← fieldOr asSpan d "delay_ms" p.delay
    downloadDelay := ← fieldOr asSpan d "download_delay_ms" p.downloadDelay
    script := p.script ++ (← listAt (asCue base) d "script") }

end LocalSwarm.Document
