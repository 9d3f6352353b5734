import LocalSwarm.Announcement
import LocalSwarm.Document.Values
import LocalSwarm.Message

/-! Announcements and messages in documents. -/
namespace LocalSwarm.Document

def operations : List (String × Operation) :=
  [("Acknowledge", .acknowledge), ("Ping", .ping), ("Store", .store), ("FindNode", .findNode),
    ("FindValue", .findValue), ("CheckFileExists", .checkFile), ("DownloadFile", .download)]

def operationName (operation : Operation) : String :=
  ((operations.find? (·.2 = operation)).map (·.1)).getD ""

/-! Reading. -/

def asAnnouncement (d : Document) : Reading Announcement := do
  return {
    correlation := ← u32 d "correlation_id"
    version := ← u16 d "protocol_version" 1
    port := ← u16 d "tcp_port" 0
    machine := ← textAt d "machine_id" }

def asOperation (d : Document) : Reading Operation := do
  expect "operation" (operations.lookup (← textAt d "op"))

def asGreeting (d : Document) : Reading Greeting := do
  return ⟨← u16 d "protocol_version" 1, ← repeatedAt asText d "buckets"⟩

def asFileQuery (d : Document) : Reading FileQuery := do
  return ⟨← textAt d "bucket", ← textAt d "prefix", ← textAt d "name"⟩

def asFileStatus (d : Document) : Reading FileStatus := do
  return ⟨← truthOr d "bucket_found" true, ← truthOr d "exists" true, ← u64 d "size",
    ← textAt d "version"⟩

def asRequest (d : Document) : Reading Request := do
  match ← asOperation d with
  | .acknowledge => return .acknowledge (← asGreeting d)
  | .ping => return .ping
  | .store => return .store (← identifierAt d "key") (← bytesAt d "value")
  | .findNode => return .findNode (← identifierAt d "target") (← u16 d "count" 20)
  | .findValue => return .findValue (← identifierAt d "target") (← u16 d "count" 20)
  | .checkFile => return .checkFile (← asFileQuery d)
  | .download =>
    return .download (← asFileQuery d) (← rangeBetween (← natOr d "start" 0) (← natOr d "end" 0))

def asResponse (d : Document) : Reading Response := do
  match ← asOperation d with
  | .acknowledge => return .acknowledge (← asGreeting d)
  | .ping => return .ping
  | .store => return .store (← truthOr d "stored" true)
  | .findNode => return .findNode (← repeatedAt asPeer d "contacts")
  | .findValue =>
    match ← optional asBytes d "value" with
    | some value => return .findValue (.value value)
    | none => return .findValue (.closer (← repeatedAt asPeer d "contacts"))
  | .checkFile => return .checkFile (← asFileStatus d)
  | .download => return .download (← asFileStatus d) (← bytesAt d "data")

def asBody (d : Document) : Reading Body := do
  match ← textAt d "kind" with
  | "request" => return .request (← asRequest d)
  | "response" => return .response (← asResponse d)
  | "error" => return .failure (← asOperation d) (← textAt d "message")
  | kind => refuse kind

def asSender (d : Document) : Reading Sender := do
  return ⟨← identifierAt d "id", ← u16 d "tcp_port" 0, ← textAt d "machine_id"⟩

def asMessage (d : Document) : Reading Message := do
  return ⟨← u32 d "correlation_id", ← need asSender d "sender", ← need asBody d "body"⟩

/-! Writing. -/

def ofAnnouncement (a : Announcement) : Document :=
  record [("correlation_id", ofNat a.correlation.toNat), ("protocol_version", ofNat a.version.toNat),
    ("tcp_port", ofNat a.port.toNat), ("machine_id", ofText a.machine)]

def greetingFields (g : Greeting) : List (String × Document) :=
  [("protocol_version", ofNat g.version.toNat), ("buckets", ofTexts g.buckets)]

def fileQueryFields (q : FileQuery) : List (String × Document) :=
  [("bucket", ofText q.bucket), ("prefix", ofText q.folder), ("name", ofText q.name)]

def fileStatusFields (s : FileStatus) : List (String × Document) :=
  [("bucket_found", truth s.bucketFound), ("exists", truth s.fileFound),
    ("size", ofNat s.size.toNat), ("version", ofText s.version)]

def ofFileStatus (s : FileStatus) : Document := record (fileStatusFields s)

def ofFileData (s : FileStatus) (data : Bytes) : Document :=
  record (fileStatusFields s ++ [("data", ofBytes data)])

def findFields (target : String) (id : Identifier) (count : UInt16) : List (String × Document) :=
  [(target, ofIdentifier id), ("count", ofNat count.toNat)]

def requestFields : Request → List (String × Document)
  | .acknowledge g => greetingFields g
  | .ping => []
  | .store key value => [("key", ofIdentifier key), ("value", ofBytes value)]
  | .findNode target count => findFields "target" target count
  | .findValue target count => findFields "target" target count
  | .checkFile q => fileQueryFields q
  | .download q r => fileQueryFields q ++ [("start", ofNat r.start), ("end", ofNat r.stop)]

def ofFound : Found → Document
  | .value bytes => record [("value", ofBytes bytes)]
  | .closer ps => record [("contacts", ofPeers ps)]

def responseFields : Response → List (String × Document)
  | .acknowledge g => greetingFields g
  | .ping => []
  | .store stored => [("stored", truth stored)]
  | .findNode ps => [("contacts", ofPeers ps)]
  | .findValue (.value bytes) => [("value", ofBytes bytes)]
  | .findValue (.closer ps) => [("contacts", ofPeers ps)]
  | .checkFile s => fileStatusFields s
  | .download s data => fileStatusFields s ++ [("data", ofBytes data)]

def ofBody (b : Body) : Document :=
  let operation := ("op", text (operationName b.operation))
  match b with
  | .request r => record (("kind", text "request") :: operation :: requestFields r)
  | .response r => record (("kind", text "response") :: operation :: responseFields r)
  | .failure _ s => record [("kind", text "error"), operation, ("message", ofText s)]

def ofSender (s : Sender) : Document :=
  record [("id", ofIdentifier s.id), ("tcp_port", ofNat s.port.toNat),
    ("machine_id", ofText s.machine)]

def messageFields (m : Message) : List (String × Document) :=
  [("correlation_id", ofNat m.correlation.toNat), ("sender", ofSender m.sender),
    ("body", ofBody m.body)]

def ofMessage (m : Message) : Document := record (messageFields m)

/-- A request on one line, its target as it is to be shown. -/
def requestLine (target : Identifier → String) (r : Request) : String :=
  let file (q : FileQuery) : String := s!"{q.bucket}|{q.folder}|{q.name}"
  let content := match r with
    | .acknowledge g => s!" {g.version.toNat} " ++ String.intercalate "," g.buckets
    | .ping => ""
    | .store key value => s!" {key.hex} {Bytes.hex value}"
    | .findNode id count => s!" {target id} {count.toNat}"
    | .findValue id count => s!" {target id} {count.toNat}"
    | .checkFile q => " " ++ file q
    | .download q r => s!" {file q} {r.start}-{r.stop}"
  operationName r.operation ++ content

end LocalSwarm.Document
