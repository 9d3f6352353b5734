import LocalSwarm.Simulation.Timeline

/-! A node among scripted peers. A peer answers from what it holds, at its own pace, unless its
script has something else in store for the next request. -/
namespace LocalSwarm.Simulation

inductive Act where
  | answer
  | fail (cause : TransportError)
  | refuse (text : String)
  | send (body : Body)

structure Cue where
  act : Act
  /-- In whose name the answer is given, if not in the peer's own. -/
  sender : Option Sender
  /-- A file that somebody makes at this moment. -/
  creates : Option Files.Location

structure HeldFile where
  query : FileQuery
  content : Bytes
  version : String

structure ScriptedPeer where
  self : Peer
  reachable : Bool
  version : UInt16
  known : List Peer
  values : List (Identifier × Bytes)
  /-- Whether it takes values to store. -/
  accepts : Bool
  files : List HeldFile
  buckets : List String
  /-- After it has served so many bytes it breaks off. -/
  breaksAfter : Option Nat
  served : Nat
  delay : Span
  downloadDelay : Span
  script : List Cue

namespace ScriptedPeer

/-- A peer that holds nothing and answers at once. -/
def plain (self : Peer) : ScriptedPeer where
  self := self
  reachable := true
  version := 1
  known := []
  values := []
  accepts := true
  files := []
  buckets := []
  breaksAfter := none
  served := 0
  delay := 0
  downloadDelay := 0
  script := []

def sender (p : ScriptedPeer) : Sender := ⟨p.self.id, p.self.address.port, p.self.machine⟩

/-- The contacts that it knows, without itself, closest to the target first. -/
def nearest (p : ScriptedPeer) (target : Identifier) (count : UInt16) : List Peer :=
  ((p.known.filter fun q => q.id ≠ p.self.id).mergeSort
    fun a b => a.distanceTo target ≤ b.distanceTo target).take count.toNat

def held? (p : ScriptedPeer) (file : FileQuery) : Option HeldFile :=
  p.files.find? (·.query = file)

def status (p : ScriptedPeer) (file : FileQuery) : FileStatus :=
  match p.held? file with
  | some f => ⟨true, true, UInt64.ofNat f.content.length, f.version⟩
  | none => ⟨p.buckets.contains file.bucket, false, 0, ""⟩

def slice (p : ScriptedPeer) (file : FileQuery) (range : ByteRange) : Bytes :=
  match p.held? file with
  | some f => (f.content.drop range.start).take range.size
  | none => []

def isWorn (p : ScriptedPeer) : Bool := p.breaksAfter.any (· ≤ p.served)

def respond (p : ScriptedPeer) : Request → ScriptedPeer × Except TransportError Response
  | .acknowledge _ => (p, .ok (.acknowledge ⟨p.version, p.buckets⟩))
  | .ping => (p, .ok .ping)
  | .store key value =>
    if p.accepts then ({ p with values := (key, value) :: p.values }, .ok (.store true))
    else (p, .ok (.store false))
  | .findNode target count => (p, .ok (.findNode (p.nearest target count)))
  | .findValue key count =>
    match p.values.lookup key with
    | some value => (p, .ok (.findValue (.value value)))
    | none => (p, .ok (.findValue (.closer (p.nearest key count))))
  | .checkFile file => (p, .ok (.checkFile (p.status file)))
  | .download file range =>
    if p.isWorn then ({ p with reachable := false }, .error .closed)
    else
      let data := p.slice file range
      ({ p with served := p.served + data.length }, .ok (.download (p.status file) data))

def perform (p : ScriptedPeer) (request : Request) : Act → ScriptedPeer × Except TransportError Body
  | .answer =>
    let (p, answer) := p.respond request
    (p, answer.map .response)
  | .fail cause => (p, .error cause)
  | .refuse text => (p, .ok (.failure request.operation text))
  | .send body => (p, .ok body)

end ScriptedPeer

/-- The node, its peers, and the requests that it has sent so far, the last one first. -/
structure ScriptedNetwork where
  site : Site
  timeout : Span
  peers : List ScriptedPeer
  sent : List (SocketAddr × Message)

namespace ScriptedNetwork

def peer? (n : ScriptedNetwork) (address : SocketAddr) : Option ScriptedPeer :=
  n.peers.find? (·.self.address = address)

/-- Put a peer in the place of the one at its address, if there is one. -/
def put (n : ScriptedNetwork) (p : ScriptedPeer) : ScriptedNetwork :=
  { n with peers := n.peers.filter (·.self.address ≠ p.self.address) ++ [p] }

def modify (n : ScriptedNetwork) (address : SocketAddr) (f : ScriptedPeer → ScriptedPeer) :
    ScriptedNetwork :=
  { n with peers := n.peers.map fun p => if p.self.address = address then f p else p }

/-- How long whoever is at an address takes to answer. -/
def delay (n : ScriptedNetwork) (address : SocketAddr) (m : Message) : Span :=
  match n.peer? address, m.body with
  | some p, .request (.download ..) => p.delay + p.downloadDelay
  | some p, _ => p.delay
  | none, _ => 0

def intruder : Files.File := ⟨[0xff], 0, false⟩

/-- The next cue of a peer. When its script is over it just answers. -/
def nextCue (p : ScriptedPeer) : Cue × ScriptedPeer :=
  match p.script with
  | cue :: script => (cue, { p with script })
  | [] => (⟨.answer, none, none⟩, p)

def reach (n : ScriptedNetwork) (p : ScriptedPeer) (m : Message) (request : Request) :
    ScriptedNetwork × Answer :=
  let (cue, p) := nextCue p
  let (p, answer) := p.perform request cue.act
  let files := match cue.creates with
    | some place => n.site.files.put place intruder
    | none => n.site.files
  ({ n.put p with site := { n.site with files } },
    answer.map fun body => ⟨m.correlation, cue.sender.getD p.sender, body⟩)

/-- What a request brings: nothing within the timeout, nothing at all, or an answer. -/
def receive (n : ScriptedNetwork) (address : SocketAddr) (m : Message) : ScriptedNetwork × Answer :=
  if n.timeout ≤ n.delay address m then (n, .error .timeout)
  else
    match n.peer? address, m.body with
    | some p, .request request => if p.reachable then n.reach p m request else (n, .error .timeout)
    | _, _ => (n, .error .timeout)

def world : World ScriptedNetwork where
  site n := n.site
  update n site := { n with site }
  send n address m :=
    ({ n with sent := (address, m) :: n.sent }, min (n.delay address m) n.timeout)
  receive n address m := .ok (n.receive address m)

end ScriptedNetwork
end LocalSwarm.Simulation
