import Mathlib.Logic.Function.Basic
import Mathlib.Logic.Relation
import LocalSwarm.Connection.Pool
import LocalSwarm.Proofs.Connections.Links

/-! Requests that share a pool of connections, and the nodes that serve these, as a system of steps
in any order. Bytes travel in pieces. A request may fail at any moment and for any reason, or be
given up; then nobody reads its connection any more, but what was written on it may still arrive
and be handled. -/
namespace LocalSwarm

/-- A request to an address. It has no course before it is begun and after it was given up. -/
structure Errand where
  address : SocketAddr
  message : Message
  course : Option (Course Nat)

def Errand.take (e : Errand) (course : Course Nat) : Errand := { e with course := some course }

/-- The requests, by their numbers, the connections and the nodes. -/
structure Traffic where
  pool : Pool Nat
  links : Nat → Option Link
  errands : UInt32 → Option Errand
  sites : SocketAddr → Site
  handled : List Handling

namespace Traffic

def start (sites : SocketAddr → Site) : Traffic := ⟨.empty, fun _ => none, fun _ => none, sites, []⟩

def setLink (s : Traffic) (c : Nat) (l : Link) : Traffic :=
  { s with links := Function.update s.links c (some l) }

def setErrand (s : Traffic) (e : Errand) : Traffic :=
  { s with errands := Function.update s.errands e.message.correlation (some e) }

/-- If a request was given a connection, its exchange begins there. -/
def begin (s : Traffic) (m : Message) : Course Nat → Traffic
  | .waits (.talking c _) => { s with links := Function.update s.links c ((s.links c).map (·.ask m)) }
  | _ => s

/-- A request goes on in a way. -/
def pursue (s : Traffic) (e : Errand) (course : Course Nat) : Traffic :=
  (s.begin e.message course).setErrand (e.take course)

def issue (s : Traffic) (a : SocketAddr) (m : Message) : Traffic :=
  { s.setErrand ⟨a, m, none⟩ with pool := (s.pool.begin a).1 }.pursue ⟨a, m, none⟩
    (.waits (s.pool.begin a).2)

/-- The exchange of a request on a connection has ended. -/
def exchanged (s : Traffic) (e : Errand) (c : Nat) (pooled : Bool) (answer : Answer) : Traffic :=
  { s with pool := (s.pool.exchanged e.address c pooled answer).1 }.pursue e
    (s.pool.exchanged e.address c pooled answer).2

/-- A message from a connection is handled by the node at its other end. -/
def react (c : Nat) (l : Link) (x : Site × List Handling) (m : Message) :
    (Site × List Handling) × Option Message :=
  let h : Handling := ⟨c, l.address, l.host, x.1, m⟩
  ((h.after, x.2 ++ [h]), h.answer)

/-- A frame was read at the other end of a connection. -/
def serve (s : Traffic) (c : Nat) (l : Link) (body rest : Bytes) : Traffic :=
  let result := Serving.respond (react c l) (s.sites l.address, s.handled) body
  { s.setLink c (l.take rest result.2) with
    sites := Function.update s.sites l.address result.1.1
    handled := result.1.2 }

/-- What can happen next. -/
inductive Step (s : Traffic) : Traffic → Prop
  /-- A request is made. No other one had its number. -/
  | issue (a : SocketAddr) (m : Message) (new : s.errands m.correlation = none) :
      Step s (s.issue a m)
  /-- A connection to the address of a request is made. -/
  | dial {k : UInt32} {e : Errand} {c : Nat} (known : s.errands k = some e)
      (dials : e.course = some (.waits .dialing)) (free : s.links c = none) (host : IpAddr) :
      Step s ((s.setLink c (.new e.address host)).pursue e (Pool.dialed (.ok c)))
  | refuse {k : UInt32} {e : Errand} (known : s.errands k = some e)
      (dials : e.course = some (.waits .dialing)) (cause : TransportError) :
      Step s (s.pursue e (Pool.dialed (.error cause)))
  | send {k : UInt32} {e : Errand} {c : Nat} {pooled : Bool} {l : Link}
      (known : s.errands k = some e) (talks : e.course = some (.waits (.talking c pooled)))
      (link : s.links c = some l) (count : Nat) : Step s (s.setLink c (l.send count))
  /-- A request was written, and its answer has come in. -/
  | receive {k : UInt32} {e : Errand} {c : Nat} {pooled : Bool} {l : Link} {m : Message}
      {rest : Bytes} (known : s.errands k = some e)
      (talks : e.course = some (.waits (.talking c pooled))) (link : s.links c = some l)
      (sent : l.unsent = []) (read : Exchange.exchange e.message l.incoming = .ok (m, rest)) :
      Step s ((s.setLink c (l.conclude e.message rest)).exchanged e c pooled (.ok m))
  /-- The exchange fails, as it does at once if the request fits no frame. -/
  | fail {k : UInt32} {e : Errand} {c : Nat} {pooled : Bool} (known : s.errands k = some e)
      (talks : e.course = some (.waits (.talking c pooled))) (cause : TransportError)
      (unfit : ∀ tooLarge, Frame.write e.message.encode = .error tooLarge → cause = tooLarge) :
      Step s (s.exchanged e c pooled (.error cause))
  | cancel {k : UInt32} {e : Errand} {attempt : Attempt Nat} (known : s.errands k = some e)
      (waits : e.course = some (.waits attempt)) : Step s (s.setErrand { e with course := none })
  /-- A whole frame has come to the node at the other end, which has no answer left to write. -/
  | serve {c : Nat} {l : Link} {body rest : Bytes} (link : s.links c = some l)
      (serving : l.serving = true) (ready : l.replying = [])
      (read : Frame.read l.outgoing = .ok (body, rest)) : Step s (s.serve c l body rest)
  | reply {c : Nat} {l : Link} (link : s.links c = some l) (count : Nat) :
      Step s (s.setLink c (l.reply count))
  | cut {c : Nat} {l : Link} (link : s.links c = some l) : Step s (s.setLink c l.cut)
  /-- Whatever else the nodes do. -/
  | change (sites : SocketAddr → Site) : Step s { s with sites }

end Traffic
end LocalSwarm
