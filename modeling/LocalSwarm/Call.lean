import LocalSwarm.Frame
import LocalSwarm.Message
import LocalSwarm.RoutingTable

/-! Calls to other peers and what their answers teach the routing table. Whoever answers a call is
observed: offered to the table as just heard. If its bucket is full, the contact that was heard
least recently is challenged by a ping, and only gives way if it does not answer under its own
identifier. A conversation is what such a call waits for; between its answers other conversations
may change the table. -/
namespace LocalSwarm

inductive CallError where
  | transport (cause : TransportError)
  | remote (text : String)
  | unexpected
  | versionMismatch (version : UInt16)
deriving DecidableEq, Repr

def CallError.message : CallError → String
  | .transport _ => "transport failure"
  | .remote text => s!"remote error: {text}"
  | .unexpected => "unexpected response"
  | .versionMismatch version => s!"protocol version {version.toNat} is not supported"

/-- What comes back for a request. -/
abbrev Answer := Except TransportError Message

def Answer.read (operation : Operation) (answer : Answer) : Except CallError (Sender × Response) :=
  match answer with
  | .error e => .error (.transport e)
  | .ok m =>
    match m.body with
    | .response r => if r.operation = operation then .ok (m.sender, r) else .error .unexpected
    | .failure _ text => .error (.remote text)
    | .request _ => .error .unexpected

/-- A full bucket: the contact that may have to give way, and for whom. -/
structure Challenge where
  oldest : Contact
  newcomer : Peer

namespace RoutingTable

/-- A peer has just talked to us. A full bucket asks for a challenge. -/
def observe (t : RoutingTable) (now : Moment) (p : Peer) :
    Except Fault (RoutingTable × Option Challenge) := do
  match ← t.offer now (.heard now p) with
  | (t, .full oldest) => return (t, some ⟨oldest, p⟩)
  | (t, _) => return (t, none)

/-- Somebody told us of peers. They are not asked, and get no slot in a full bucket. -/
def addHearsay (t : RoutingTable) (now : Moment) : List Peer → Except Fault RoutingTable
  | [] => .ok t
  | p :: ps =>
    match t.offer now (.hearsay p) with
    | .ok (t, _) => t.addHearsay now ps
    | .error f => .error f

end RoutingTable

namespace Challenge

/-- Only the contact itself can meet its challenge. -/
def isMet (c : Challenge) (answer : Answer) : Bool :=
  match answer.read .ping with
  | .ok (sender, .ping) => sender.id = c.oldest.id
  | _ => false

/-- The contact that met its challenge stays and was just heard; else the newcomer takes its slot. -/
def settle (c : Challenge) (t : RoutingTable) (now : Moment) (met : Bool) : RoutingTable :=
  if met then t.markSeen now c.oldest.id
  else (t.replace c.oldest.id (.heard now c.newcomer)).1

end Challenge

inductive Callee where
  /-- A contact. That it did not answer is recorded. -/
  | contact (peer : Peer)
  /-- An endpoint of which nothing else is known, for a handshake. -/
  | endpoint (address : SocketAddr)

def Callee.address : Callee → SocketAddr
  | .contact peer => peer.address
  | .endpoint address => address

structure Call where
  callee : Callee
  request : Request

/-- A successful call: who answered, at the host that was called, and what. -/
structure Reply where
  peer : Peer
  response : Response

def Reply.told (r : Reply) : List Peer :=
  match r.response with
  | .findNode ps => ps
  | .findValue (.closer ps) => ps
  | _ => []

inductive Conversation where
  /-- The answer to a call. -/
  | calling (call : Call)
  /-- The answer to a challenge. What was replied to the call before, if there was one, waits. -/
  | challenging (challenge : Challenge) (reply : Option Reply)

/-- How far a conversation has come. One that only observed a peer ends without an outcome. -/
inductive Progress where
  | waits (conversation : Conversation)
  | ended (outcome : Option (Except CallError Reply))

namespace Conversation

def request : Conversation → SocketAddr × Request
  | calling call => (call.callee.address, call.request)
  | challenging challenge _ => (challenge.oldest.peer.address, .ping)

/-- How many answers a conversation still waits for at most. -/
def depth : Conversation → Nat
  | calling _ => 2
  | challenging .. => 1

theorem depth_pos (c : Conversation) : 0 < c.depth := by
  cases c <;> exact Nat.succ_pos _

/-- The end of a conversation: the peers that a reply told of become hearsay. -/
def conclude (t : RoutingTable) (now : Moment) (reply : Option Reply) :
    Except Fault (RoutingTable × Progress) :=
  (t.addHearsay now ((reply.map Reply.told).getD [])).map fun t => (t, .ended (reply.map .ok))

/-- Observe a peer, and challenge first if that is called for. -/
def observe (t : RoutingTable) (now : Moment) (p : Peer) (reply : Option Reply) :
    Except Fault (RoutingTable × Progress) :=
  match t.observe now p with
  | .error f => .error f
  | .ok (t, some challenge) => .ok (t, .waits (.challenging challenge reply))
  | .ok (t, none) => conclude t now reply

/-- Whether a response will do: a handshake must be in the given version. -/
def admits (version : UInt16) (callee : Callee) (response : Response) : Except CallError Unit :=
  match callee, response with
  | .endpoint _, .acknowledge g =>
    if g.version = version then .ok () else .error (.versionMismatch g.version)
  | .endpoint _, _ => .error .unexpected
  | .contact _, _ => .ok ()

def blame (t : RoutingTable) : Callee → RoutingTable
  | .contact peer => t.requestFailed peer.id
  | .endpoint _ => t

/-- What an answer makes of the table and of the conversation. `version` is the one we speak. -/
def resume (version : UInt16) (t : RoutingTable) (now : Moment) (answer : Answer) :
    Conversation → Except Fault (RoutingTable × Progress)
  | calling call =>
    match answer.read call.request.operation with
    | .error e => .ok (blame t call.callee, .ended (some (.error e)))
    | .ok (sender, response) =>
      match admits version call.callee response with
      | .error e => .ok (t, .ended (some (.error e)))
      | .ok () =>
        let p := sender.peerAt call.callee.address.ip
        observe t now p (some ⟨p, response⟩)
  | challenging challenge reply =>
    conclude (challenge.settle t now (challenge.isMet answer)) now reply

theorem conclude_ne_waits {t t' : RoutingTable} {now : Moment} {reply : Option Reply}
    {c : Conversation} : conclude t now reply ≠ .ok (t', .waits c) := by
  intro h
  unfold conclude at h
  cases told : t.addHearsay now ((reply.map Reply.told).getD []) <;> rw [told] at h <;> cases h

theorem depth_resume {version : UInt16} {t t' : RoutingTable} {now : Moment} {answer : Answer}
    {c c' : Conversation} (h : c.resume version t now answer = .ok (t', .waits c')) :
    c'.depth < c.depth := by
  cases c with
  | challenging challenge reply => exact absurd h conclude_ne_waits
  | calling call =>
    simp only [resume] at h
    split at h
    · simp at h
    · split at h
      · simp at h
      · unfold observe at h
        split at h
        · cases h
        · cases h
          exact Nat.lt_succ_self 1
        · exact absurd h conclude_ne_waits

end Conversation
end LocalSwarm
