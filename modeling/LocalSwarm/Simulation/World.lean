import LocalSwarm.Plan

/-! Worlds around a node. A world says how long the answer to a request is on its way and, when it
arrives, what it is; all else follows from the node. -/
namespace LocalSwarm.Simulation

/-- What happens to the requests of a node whose surroundings are in a state of `ω`. -/
structure World (ω : Type) where
  site : ω → Site
  update : ω → Site → ω
  /-- A request goes out to an address. Tells how long its answer is on its way. -/
  send : ω → SocketAddr → Message → ω × Span
  /-- The answer arrives, or what stands for it. -/
  receive : ω → SocketAddr → Message → Except Fault (ω × Answer)

namespace World

variable {ω : Type} (w : World ω)

/-- The request that a conversation waits for goes out. -/
def depart (s : ω) (c : Conversation) : ω × Message × Span :=
  let site := w.site s
  let (node, message) := site.node.ask c.request.2
  let (s, span) := w.send (w.update s { site with node }) c.request.1 message
  (s, message, span)

/-- The answer that a conversation waits for arrives. -/
def arrive (s : ω) (c : Conversation) (message : Message) : Except Fault (ω × Progress) :=
  match w.receive s c.request.1 message with
  | .error fault => .error fault
  | .ok (s, answer) =>
    let site := w.site s
    match c.resume site.node.version site.node.table site.now answer with
    | .error fault => .error fault
    | .ok (table, progress) =>
      .ok (w.update s { site with node := { site.node with table } }, progress)

variable {w}

theorem depth_arrive {s s' : ω} {c c' : Conversation} {message : Message}
    (h : w.arrive s c message = .ok (s', .waits c')) : c'.depth < c.depth := by
  unfold arrive at h
  split at h
  · cases h
  · dsimp only at h
    split at h
    · cases h
    · rename_i resumed
      cases h
      exact Conversation.depth_resume resumed

variable (w)

/-- Carry a conversation to its end, as if all answers came at once. -/
def converse (s : ω) (c : Conversation) : Except Fault (ω × Option Outcome) :=
  let (s, message, _) := w.depart s c
  match h : w.arrive s c message with
  | .error fault => .error fault
  | .ok (s, .ended outcome) => .ok (s, outcome)
  | .ok (s, .waits next) =>
    have := depth_arrive h
    converse s next
termination_by c.depth

/-- Observe a peer, with the challenge that this may call for. -/
def observe (s : ω) (p : Peer) : Except Fault ω :=
  let site := w.site s
  match Conversation.observe site.node.table site.now p none with
  | .error fault => .error fault
  | .ok (table, progress) =>
    let s := w.update s { site with node := { site.node with table } }
    match progress with
    | .ended _ => .ok s
    | .waits c => (w.converse s c).map (·.1)

end World
end LocalSwarm.Simulation
