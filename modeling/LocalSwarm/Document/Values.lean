import LocalSwarm.ByteRange
import LocalSwarm.Document.Reader
import LocalSwarm.Peer
import LocalSwarm.Wire.Field

/-! Bytes, identifiers, addresses, peers and ranges in documents. Long bytes and texts are written
as their length and digest, long lists by their ends. -/
namespace LocalSwarm.Document

/-! Reading. -/

/-- Bytes as hexadecimal digits, by a linear pattern, or as one byte that fills all. -/
def asBytes (d : Document) : Reading Bytes := do
  match d with
  | text digits => expect "not hexadecimal" (Bytes.ofHex? digits)
  | _ =>
    match ← listAt asNat d "pattern", ← listAt asNat d "fill" with
    | [length, factor, first], _ =>
      return (List.range length).map fun i => UInt8.ofNat (i * factor + first)
    | _, [length, byte] => return List.replicate length (UInt8.ofNat byte)
    | _, _ => refuse "not bytes"

def bytesAt (d : Document) (name : String) : Reading Bytes := fieldOr asBytes d name []

def asIdentifier (d : Document) : Reading Identifier := do
  expect "not an identifier" (Identifier.ofHex? (← asText d))

def identifierAt (d : Document) (name : String) : Reading Identifier := need asIdentifier d name

def asAddress (d : Document) : Reading SocketAddr := do
  expect "not an address" (SocketAddr.ofText? (← asText d))

def addressAt (d : Document) (name : String) : Reading SocketAddr := need asAddress d name

def asHost (d : Document) : Reading IpAddr := do
  expect "not a host" (IpAddr.ofText? (← asText d))

def asPeer (d : Document) : Reading Peer := do
  return ⟨← identifierAt d "id", ← textAt d "machine_id", ← addressAt d "addr"⟩

def rangeBetween (start stop : Nat) : Reading ByteRange :=
  sound (ByteRange.between (UInt64.ofNat start) (UInt64.ofNat stop))

def asRange (d : Document) : Reading ByteRange := do
  match ← listOf asNat d with
  | [start, stop] => rangeBetween start stop
  | _ => refuse "not a range"

def u16 (d : Document) (name : String) (default : Nat) : Reading UInt16 :=
  return UInt16.ofNat (← natOr d name default)

def u32 (d : Document) (name : String) : Reading UInt32 := return UInt32.ofNat (← natOr d name 0)

def u64 (d : Document) (name : String) : Reading UInt64 := return UInt64.ofNat (← natOr d name 0)

/-! Writing. -/

def ofNat (n : Nat) : Document := number n 0

def ofInt (n : Int) : Document := number n 0

/-- What stands for bytes that are too long to be shown. -/
def summary (bytes : Bytes) : Document :=
  record [("len", ofNat bytes.length), ("sha1", text (Bytes.hex (Digest.sha1 bytes)))]

def ofBytes (bytes : Bytes) : Document :=
  if bytes.length ≤ 512 then text (Bytes.hex bytes) else summary bytes

def ofText (s : String) : Document :=
  if s.utf8ByteSize ≤ 300 then text s else summary (Wire.utf8 s)

def ofIdentifier (id : Identifier) : Document := text id.hex

def ofIdentifiers (ps : List Peer) : Document := list (ps.map fun p => ofIdentifier p.id)

def ofAddress (a : SocketAddr) : Document := text a.render

def ofPeer (p : Peer) : Document :=
  record [("id", ofIdentifier p.id), ("machine_id", ofText p.machine), ("addr", ofAddress p.address)]

def ofLong (items : List Document) : Document :=
  if items.length ≤ 200 then list items
  else record [("len", ofNat items.length), ("first", items.headD null), ("last", items.getLastD null)]

def ofPeers (ps : List Peer) : Document := ofLong (ps.map ofPeer)

def ofTexts (texts : List String) : Document := ofLong (texts.map ofText)

def ofRange (r : ByteRange) : Document := list [ofNat r.start, ofNat r.stop]

def ofOption {α : Type} (write : α → Document) (a : Option α) : Document := (a.map write).getD null

end LocalSwarm.Document
