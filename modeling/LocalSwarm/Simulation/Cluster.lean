import LocalSwarm.Lookup.Plan
import LocalSwarm.Message.Encoding
import LocalSwarm.Simulation.Timeline

/-! Nodes among themselves. What they send is encoded and decoded on the way, and answers come at
once. That a node observes those who asked it can wait until the work at hand is done. -/
namespace LocalSwarm.Simulation

structure Member where
  node : Node
  address : SocketAddr
  online : Bool
  pace : LookupPace

/-- The members, which of them acts, and what they have yet to do. -/
structure Cluster (n : Nat) where
  members : Vector Member n
  files : Files.Tree
  now : Moment
  acting : Fin n
  /-- Who is still to be observed and by whom, in the order in which they asked. -/
  observations : List (Fin n × Peer)
  /-- Who completed a handshake and with whom. -/
  greetings : List (Fin n × Peer)

namespace Cluster

variable {n : Nat}

def actor (c : Cluster n) : Member := c.members[c.acting]

def modify (c : Cluster n) (i : Fin n) (f : Member → Member) : Cluster n :=
  { c with members := c.members.set i (f c.members[i]) }

def setNode (c : Cluster n) (i : Fin n) (node : Node) : Cluster n := c.modify i ({ · with node })

def at? (c : Cluster n) (address : SocketAddr) : Option (Fin n) :=
  (List.finRange n).reverse.find? fun i => c.members[i].address = address

def handle (c : Cluster n) (i : Fin n) (m : Message) (host : IpAddr) : Cluster n × Option Message :=
  let (node, reaction) := c.members[i].node.react c.files c.now m host
  ({ c.setNode i node with
      observations := c.observations ++ (reaction.observed.map fun p => (i, p)).toList
      greetings := c.greetings ++ (reaction.greeted.map fun p => (i, p)).toList },
    reaction.reply)

/-- What is left of a message once it went over the wire. -/
def conveyed (m : Message) : Answer := (Message.decode m.encode).mapError .decode

def receive (c : Cluster n) (address : SocketAddr) (m : Message) : Cluster n × Answer :=
  match c.at? address, conveyed m with
  | some i, .ok m =>
    if c.members[i].online then
      match c.handle i m c.actor.address.ip with
      | (c, some reply) => (c, conveyed reply)
      | (c, none) => (c, .error .timeout)
    else (c, .error .timeout)
  | some i, .error e => (c, .error (if c.members[i].online then e else .timeout))
  | none, _ => (c, .error .timeout)

def world : World (Cluster n) where
  site c := ⟨c.actor.node, c.files, c.now⟩
  update c site := { c.setNode c.acting site.node with files := site.files }
  send c _ _ := (c, 0)
  receive c address m := .ok (c.receive address m)

/-- So many observations are made at most. Each can lead to others, which need not end. -/
def observationLimit : Nat := 100000

/-- Make the observations that wait, and those that they lead to. -/
def settle : (limit : Nat) → Cluster n → Except Fault (Cluster n)
  | 0, c => .ok c
  | limit + 1, c =>
    match c.observations with
    | [] => .ok c
    | (i, p) :: observations => do
      settle limit (← world.observe { c with observations, acting := i } p)

def act {α : Type} (c : Cluster n) (i : Fin n) (p : Plan α) :
    Except Fault (Cluster n × Option α) := do
  let (c, result) ← world.perform { c with acting := i } p none
  return (← settle observationLimit c, result)

end Cluster
end LocalSwarm.Simulation
