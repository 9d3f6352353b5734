import LocalSwarm.Document
import LocalSwarm.Peer
import LocalSwarm.Wire.Field

/-! Peers as a host stores them between two runs. -/
namespace LocalSwarm.Snapshot

def ofByte (byte : UInt8) : Document := .number byte.toNat 0

def ofPeer (p : Peer) : Document :=
  .record [("id", .list (p.id.toBytes.map ofByte)), ("machine_id", .text p.machine),
    ("addr", .text p.address.render)]

def ofPeers (ps : List Peer) : Document := .list (ps.map ofPeer)

def byte? (d : Document) : Option UInt8 := (d.natBelow? 256).map UInt8.ofNat

/-- Twenty bytes, in a list or as the bytes of a text. -/
def identifier? (d : Document) : Option Identifier :=
  match d with
  | .list items => do (Identifier.ofBytes (← items.mapM byte?)).toOption
  | .text s => (Identifier.ofBytes (Wire.utf8 s)).toOption
  | _ => none

def peer? (document : Document) : Option Peer := do
  let d ← document.named ["id", "machine_id", "addr"]
  let id ← identifier? (← d.field? "id")
  let machine ← (← d.field? "machine_id").text?
  let address ← SocketAddr.ofText? (← (← d.field? "addr").text?)
  return { id, machine, address }

/-- Either all peers of a snapshot are restored or none. -/
def peers? (d : Document) : Option (List Peer) := do (← d.list?).mapM peer?

end LocalSwarm.Snapshot
