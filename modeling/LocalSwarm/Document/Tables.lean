import LocalSwarm.Document.Values
import LocalSwarm.RoutingTable

/-! Contacts and routing tables in documents, and the change that only a document asks of a table. -/
namespace LocalSwarm

/-- A contact of the table is heard at an address. It keeps its place. -/
def RoutingTable.touch (t : RoutingTable) (now : Moment) (id : Identifier) (address : SocketAddr) :
    RoutingTable := t.modify id (·.touch now address)

namespace Document

def ofStatus : Status → Document
  | .good => text "Good"
  | .questionable => text "Questionable"
  | .bad => text "Bad"

def ofContact (now : Moment) (c : Contact) : Document :=
  list [ofIdentifier c.id, ofAddress c.peer.address, ofText c.peer.machine, ofStatus (c.status now)]

/-- The buckets that are not empty, with their numbers. -/
def ofTable (now : Moment) (t : RoutingTable) : Document :=
  list ((List.finRange 160).filterMap fun i =>
    let contacts := (t.bucket i).contacts
    if contacts.isEmpty then none
    else some (list [ofNat i, list (contacts.map (ofContact now))]))

/-- A contact that was heard, told of or found silent. -/
def asContact (now : Moment) (d : Document) : Reading Contact := do
  let peer ← need asPeer d "contact"
  match ← textAt d "as" with
  | "questionable" => return .hearsay peer
  | "bad" => return .silent peer
  | _ => return .heard now peer

def ofOffer : Offer → Document
  | .ourselves => text "None"
  | .inserted => text "Inserted"
  | .updated => text "Updated"
  | .full oldest => record [("Full", ofIdentifier oldest.id)]

end Document
end LocalSwarm
