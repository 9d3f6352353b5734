import LocalSwarm.Message.Encoding
import LocalSwarm.Proofs.Activities.Plans
import LocalSwarm.Proofs.Tables.Turns
import LocalSwarm.Service

/-! All that a service does at one time: any number of tasks, each waiting for the answers to its
calls, and the requests of others. What happens next, and what bytes come back for a request, is up
to the surroundings; messages that do not fit a frame are not sent. Between any two steps the files
may be changed by others. -/
namespace LocalSwarm

/-- The service that settings make if slots for all its contacts can be set aside. -/
def Service.allocated (settings : Settings) (id : Identifier) (port : Nat)
    (provider : Files.Provider) (listening : Option Discovery.Listening) : Service :=
  let self : Sender := ⟨id, UInt16.ofNat port, settings.machine.getD ""⟩
  let table := RoutingTable.fresh id settings.bucketSlots
  let node : Node :=
    ⟨self, settings.version, settings.bucketSlots, table, .initial, .standard, provider, 0⟩
  ⟨settings, node, .initial, listening, .none, true, []⟩

theorem Service.create_eq (settings : Settings) (id : Identifier) (port : Nat)
    (provider : Files.Provider) (listening : Option Discovery.Listening) :
    create settings id port provider listening =
      if RoutingTable.slotLimit < settings.bucketSlots then
        .error (.tooManySlots settings.bucketSlots)
      else .ok (allocated settings id port provider listening) := by
  unfold create Node.create RoutingTable.create
  split <;> rfl

/-- What a service can be asked to do, or does of its own. -/
inductive Task where
  | call (c : Call)
  | join (address : SocketAddr)
  | bootstrap (contact : Peer)
  | refresh (random : Fin 160 → Identifier)
  | findNode (target : Identifier)
  | findValue (key : Identifier)
  | store (key : Identifier) (value : Bytes)
  | download (request : DownloadRequest) (suffix : UInt32)

/-- The plan of a task. Whoever has set it would be told the result. -/
def Task.plan (s : Service) : Task → Plan Unit
  | call c => (Plan.call c).bind fun _ => .done ()
  | join address => (LocalSwarm.join s.pace address).bind fun _ => .done ()
  | bootstrap contact => (Bootstrap.attempt s.pace contact).bind fun _ => .done ()
  | refresh random => (Lookup.refresh s.pace random).bind fun _ => .done ()
  | findNode target => (Lookup.findNode s.pace target).bind fun _ => .done ()
  | findValue key => (Lookup.findValue s.pace key).bind fun _ => .done ()
  | store key value => (Lookup.storeValue s.pace key value).bind fun _ => .done ()
  | download request suffix => (s.download request suffix).plan.bind fun _ => .done ()

/-- A conversation in a slot of a task, and the message that is out for it. -/
structure Strand where
  slot : Nat
  conversation : Conversation
  message : Option Message

/-- A task that waits: its strands, and what it does when one of them ends or it is given up. -/
structure Undertaking where
  strands : List Strand
  dropped : Site → Site
  next : Nat → Outcome → Plan Unit

/-- Strands in place of the one at a position. -/
def Undertaking.put (u : Undertaking) (j : Nat) (strands : List Strand) : Undertaking :=
  { u with strands := u.strands.take j ++ strands ++ u.strands.drop (j + 1) }

/-- Carry a plan on, besides strands that are out, until it waits or ends. -/
def Plan.proceed (strands : List Strand) : Plan Unit → Site → Except Fault (Site × List Undertaking)
  | .done _, s => .ok (s, [])
  | .broken fault, _ => .error fault
  | .look next, s => (next s).proceed strands s
  | .change effect next, s => next.proceed strands (effect s)
  | .await _ calls dropped next, s =>
    let new := calls.map fun (slot, call) => Strand.mk slot (.calling call) none
    .ok (s, [⟨strands ++ new, dropped, next⟩])

structure Activity where
  site : Site
  undertakings : List Undertaking
  /-- Those who have asked us and are yet to be observed. -/
  guests : List Peer
  /-- All messages that were to be sent, the last one first. -/
  sent : List Message

/-- What comes back when a message is sent for a conversation: bytes, or the reason why nothing
does. -/
abbrev Surroundings := Conversation → Message → Except TransportError Bytes

inductive Occurrence where
  | began (task : Task)
  /-- The request of a strand goes out. -/
  | departed (i j : Nat)
  /-- The answer for a strand comes in, as bytes that depend on what was sent to whom. -/
  | answered (i j : Nat) (surroundings : Surroundings)
  | abandoned (i : Nat)
  /-- Somebody asks us, while the files are such. -/
  | asked (body : Bytes) (host : IpAddr) (files : Files.Tree)
  | observed (i : Nat)
  | told (peers : List Peer)
  | elapsed (span : Span)
  | changed (files : Files.Tree)

/-- What a message is answered. One that does not fit a frame fails without being sent. -/
def Surroundings.answer (surroundings : Surroundings) (c : Conversation) (m : Message) : Answer :=
  match Frame.write m.encode with
  | .error e => .error e
  | .ok _ =>
    match surroundings c m with
    | .error e => .error e
    | .ok body => (Message.decode body).mapError .decode

namespace Activity

variable (a : Activity)

def idle (site : Site) : Activity := ⟨site, [], [], []⟩

def setTable (table : RoutingTable) : Activity :=
  { a with site := { a.site with node := { a.site.node with table } } }

/-- Undertakings in place of the one at a position. -/
def put (i : Nat) (undertakings : List Undertaking) : Activity :=
  { a with undertakings := a.undertakings.take i ++ undertakings ++ a.undertakings.drop (i + 1) }

def begin (p : Plan Unit) : Except Fault Activity := do
  let (site, undertakings) ← p.proceed [] a.site
  return { a with site, undertakings := undertakings ++ a.undertakings }

/-- The strand at a position of the undertaking at a position. -/
def strand? (i j : Nat) : Option (Undertaking × Strand) := do
  let u ← a.undertakings[i]?
  let e ← u.strands[j]?
  return (u, e)

def depart (i j : Nat) : Activity :=
  match a.strand? i j with
  | some (u, ⟨slot, c, none⟩) =>
    let (node, message) := a.site.node.ask c.request.2
    { a.put i [u.put j [⟨slot, c, some message⟩]] with
      site := { a.site with node }
      sent := message :: a.sent }
  | _ => a

def answer (i j : Nat) (surroundings : Surroundings) : Except Fault Activity :=
  match a.strand? i j with
  | some (u, ⟨slot, c, some message⟩) => do
    let answer := surroundings.answer c message
    let (table, progress) ← c.resume a.site.node.version a.site.node.table a.site.now answer
    let a := a.setTable table
    match progress with
    | .waits c => return a.put i [u.put j [⟨slot, c, none⟩]]
    | .ended none => return a.put i [u.put j []]
    | .ended (some outcome) => do
      let (site, undertakings) ← (u.next slot outcome).proceed (u.put j []).strands a.site
      return { a.put i undertakings with site }
  | _ => .ok a

def abandon (i : Nat) : Activity :=
  match a.undertakings[i]? with
  | some u => { a.put i [] with site := u.dropped a.site }
  | none => a

/-- Answer a request that came in a frame. The requester is observed later. -/
def serve (body : Bytes) (host : IpAddr) (files : Files.Tree) : Activity :=
  match Frame.write body, Message.decode body with
  | .ok _, .ok m =>
    let (node, reaction) := a.site.node.react files a.site.now m host
    { a with
      site := { a.site with node }
      guests := a.guests ++ reaction.observed.toList
      sent := reaction.reply.toList ++ a.sent }
  | _, _ => a

/-- Observe a guest, with the challenge that this may call for. -/
def welcome (i : Nat) : Except Fault Activity :=
  match a.guests[i]? with
  | none => .ok a
  | some p => do
    let (table, progress) ← Conversation.observe a.site.node.table a.site.now p none
    let a := { a.setTable table with guests := a.guests.eraseIdx i }
    match progress with
    | .waits c =>
      let challenge := ⟨[⟨0, c, none⟩], id, fun _ _ => .done ()⟩
      return { a with undertakings := challenge :: a.undertakings }
    | .ended _ => return a

def step (s : Service) : Occurrence → Except Fault Activity
  | .began task => a.begin (task.plan s)
  | .departed i j => .ok (a.depart i j)
  | .answered i j surroundings => a.answer i j surroundings
  | .abandoned i => .ok (a.abandon i)
  | .asked body host files => .ok (a.serve body host files)
  | .observed i => a.welcome i
  | .told peers => do
    let table ← a.site.node.table.addHearsay a.site.now peers
    return a.setTable table
  | .elapsed span => .ok { a with site := { a.site with now := a.site.now + span } }
  | .changed files => .ok { a with site := { a.site with files } }

def run (s : Service) (a : Activity) : List Occurrence → Except Fault Activity
  | [] => .ok a
  | o :: os => do
    let a ← a.step s o
    a.run s os

theorem run_append (s : Service) (os more : List Occurrence) :
    a.run s (os ++ more) = a.run s os >>= fun a => a.run s more := by
  induction os generalizing a with
  | nil => rfl
  | cons o os ih =>
    rw [List.cons_append, run, run, bind_assoc]
    exact bind_congr fun next => ih next

end Activity
end LocalSwarm
