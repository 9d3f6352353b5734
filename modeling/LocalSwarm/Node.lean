import LocalSwarm.Bootstrap
import LocalSwarm.Call
import LocalSwarm.Files.Shared
import LocalSwarm.ValueStore

/-! A node: who it is, what it knows and keeps, and what it answers when other peers ask it. -/
namespace LocalSwarm

structure Node where
  self : Sender
  /-- The protocol that it speaks. -/
  version : UInt16
  /-- How many contacts it asks for and names to others. -/
  count : Nat
  table : RoutingTable
  bootstrap : Bootstrap
  store : ValueStore
  provider : Files.Provider
  correlation : UInt32

/-- What a message asks a node to do: maybe to answer, to observe its sender, and to take note of
one that greeted it. -/
structure Reaction where
  reply : Option Message
  observed : Option Peer
  greeted : Option Peer

/-- A node, the files of its host and the time there. -/
structure Site where
  node : Node
  files : Files.Tree
  now : Moment

namespace Node

def create (self : Sender) (version : UInt16) (count slots : Nat) (provider : Files.Provider) :
    Except Fault Node := do
  let table ← RoutingTable.create self.id slots
  return ⟨self, version, count, table, .initial, .standard, provider, 0⟩

/-- Send a request. Every request has a number of its own, until all of 32 bits were used. -/
def ask (n : Node) (r : Request) : Node × Message :=
  ({ n with correlation := n.correlation + 1 }, ⟨n.correlation, n.self, .request r⟩)

def greeting (n : Node) : Greeting := ⟨n.version, n.provider.buckets⟩

/-- The contacts named to a requester: not itself, and no more than a bucket holds. -/
def nearest (n : Node) (now : Moment) (target : Identifier) (count : UInt16) (requester : Peer) :
    List Peer :=
  let count := min count.toNat n.count
  ((n.table.closest now target (count + 1)).filter fun p => !p.same requester).take count

def fileAnswer {α : Type} (response : α → Response) :
    Except Files.FileError α → Except String Response
  | .ok a => .ok (response a)
  | .error e => .error e.message

/-- The answer to a request, or the text of a failure. -/
def respond (n : Node) (files : Files.Tree) (now : Moment) (requester : Peer) :
    Request → Node × Except String Response
  | .acknowledge _ => (n, .ok (.acknowledge n.greeting))
  | .ping => (n, .ok .ping)
  | .store key value =>
    let (store, done) := n.store.put now key value
    ({ n with store }, .ok (.store done))
  | .findNode target count => (n, .ok (.findNode (n.nearest now target count requester)))
  | .findValue key count =>
    match n.store.get now key with
    | (store, some value) => ({ n with store }, .ok (.findValue (.value value)))
    | (store, none) =>
      ({ n with store }, .ok (.findValue (.closer (n.nearest now key count requester))))
  | .checkFile file => (n, fileAnswer .checkFile (n.provider.status files file))
  | .download file range =>
    (n, fileAnswer (fun (status, data) => .download status data)
      (n.provider.read files file range))

/-- Whoever asks is observed, unless it greets us in another version. -/
def welcomes (n : Node) : Request → Bool
  | .acknowledge g => g.version = n.version
  | _ => true

def isGreeting : Request → Bool
  | .acknowledge _ => true
  | _ => false

/-- Take a message that came from a host. Only requests are answered, under their own number. -/
def react (n : Node) (files : Files.Tree) (now : Moment) (m : Message) (host : IpAddr) :
    Node × Reaction :=
  match m.body with
  | .request request =>
    let requester := m.sender.peerAt host
    let observed := if n.welcomes request then some requester else none
    let (after, answer) := n.respond files now requester request
    let body := match answer with
      | .ok response => Body.response response
      | .error text => .failure request.operation text
    (after, {
      reply := some ⟨m.correlation, n.self, body⟩
      observed
      greeted := if isGreeting request then observed else none })
  | _ => (n, ⟨none, none, none⟩)

end Node
end LocalSwarm
