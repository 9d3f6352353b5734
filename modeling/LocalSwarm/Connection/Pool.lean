import LocalSwarm.Call

/-! Connections that are kept between requests, at most one for an address. A request takes the
connection out of the pool, and only a completed exchange puts it back: one that was given up may
still bring the answer to a request that nobody waits for. -/
namespace LocalSwarm

structure Pool (κ : Type) where
  idle : List (SocketAddr × κ)

inductive Attempt (κ : Type) where
  /-- The exchange on a connection, which was pooled or dialed for this request. -/
  | talking (connection : κ) (pooled : Bool)
  | dialing

inductive Course (κ : Type) where
  | waits (attempt : Attempt κ)
  | ended (answer : Answer)

structure Line (ω κ : Type) where
  dial : ω → SocketAddr → ω × Except TransportError κ
  exchange : ω → κ → Message → ω × Answer

namespace Pool

variable {ω κ : Type}

def empty : Pool κ := ⟨[]⟩

def drop (p : Pool κ) (a : SocketAddr) : Pool κ := ⟨p.idle.filter (·.1 ≠ a)⟩

/-- Keep a connection, in place of one that another request has put back meanwhile. -/
def keep (p : Pool κ) (a : SocketAddr) (c : κ) : Pool κ := ⟨(p.drop a).idle ++ [(a, c)]⟩

/-- Begin a request: on the pooled connection if there is one. -/
def begin (p : Pool κ) (a : SocketAddr) : Pool κ × Attempt κ :=
  match p.idle.lookup a with
  | some c => (p.drop a, .talking c true)
  | none => (p, .dialing)

/-- Whether the far end may just have dropped an idle connection. -/
def isBroken : TransportError → Bool
  | .io => true
  | .closed => true
  | _ => false

/-- The exchange on a connection has ended. A broken connection that was pooled is dialed anew,
once. -/
def exchanged (p : Pool κ) (a : SocketAddr) (c : κ) (pooled : Bool) : Answer → Pool κ × Course κ
  | .ok m => (p.keep a c, .ended (.ok m))
  | .error e => if pooled && isBroken e then (p, .waits .dialing) else (p, .ended (.error e))

def dialed : Except TransportError κ → Course κ
  | .ok c => .waits (.talking c false)
  | .error e => .ended (.error e)

/-- Dial and make the exchange on the new connection. -/
def redial (line : Line ω κ) (s : ω) (p : Pool κ) (a : SocketAddr) (m : Message) :
    ω × Pool κ × Answer :=
  match line.dial s a with
  | (s, .error e) => (s, p, .error e)
  | (s, .ok c) =>
    let (s, answer) := line.exchange s c m
    (s, (p.exchanged a c false answer).1, answer)

/-- A whole request, while no other one is made. -/
def request (line : Line ω κ) (s : ω) (p : Pool κ) (a : SocketAddr) (m : Message) :
    ω × Pool κ × Answer :=
  match p.begin a with
  | (p, .dialing) => redial line s p a m
  | (p, .talking c pooled) =>
    let (s, answer) := line.exchange s c m
    match p.exchanged a c pooled answer with
    | (p, .ended answer) => (s, p, answer)
    | (p, .waits _) => redial line s p a m

end Pool
end LocalSwarm
