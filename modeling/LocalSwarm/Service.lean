import LocalSwarm.Discovery.Filter
import LocalSwarm.Discovery.Interfaces
import LocalSwarm.Download.Plan
import LocalSwarm.Lookup.Plan
import LocalSwarm.Service.Handler
import LocalSwarm.Settings

/-! A service: a node that listens for connections and announcements, greets those whom it is told
of and reports what happens to its owner. -/
namespace LocalSwarm

inductive ServiceEvent where
  | discovered (contact : Peer)
  | bootstrapped
  | interfacesChanged
deriving DecidableEq

inductive StartError where
  | noFreePort (first last : Nat)
  | discovery (cause : Discovery.ListenError)

def StartError.message : StartError → String
  | .noFreePort first last => s!"no free TCP port in {first}..={last}"
  | .discovery _ => "discovery failed to start"

structure Service where
  settings : Settings
  node : Node
  handler : Handler
  listening : Option Discovery.Listening
  stats : Discovery.Stats
  running : Bool
  events : List ServiceEvent

/-- The ports of a host: those in use, and the next one that it would choose itself. -/
structure Ports where
  taken : List Nat
  spare : Nat

namespace Ports

/-- The first port of a span that is free. Port zero leaves the choice to the host. -/
def reserve (p : Ports) (span : Nat × Nat) : Option (Nat × Ports) :=
  if span.1 = 0 then some (p.spare, ⟨p.spare :: p.taken, p.spare + 1⟩)
  else
    ((List.range' span.1 (span.2 + 1 - span.1)).find? fun port => !p.taken.contains port).map
      fun port => (port, { p with taken := port :: p.taken })

/-- The ports after so many attempts to reserve one of a span. -/
def after (p : Ports) (span : Nat × Nat) : Nat → Ports
  | 0 => p
  | attempts + 1 =>
    match (p.after span attempts).reserve span with
    | some (_, rest) => rest
    | none => p.after span attempts

/-- Bind one listener after the other where the ports of a span are free. -/
def bind (p : Ports) (span : Nat × Nat) : Discovery.Bind := fun entry version _ =>
  match (p.after span entry).reserve span with
  | some (port, _) => .ok (version.unspecified.atPort (UInt16.ofNat port))
  | none => .error (.noFreePort version)

end Ports

namespace Service

/-- Listen for announcements, if that is wanted. -/
def listen (settings : Settings) (found : Except Discovery.ListenError (List IpAddr))
    (bind : Discovery.Bind) : Except StartError (Option Discovery.Listening) :=
  if settings.discovery then
    match Discovery.Listening.start settings.versions found bind with
    | (listening, .ok ()) => .ok (some listening)
    | (_, .error e) => .error (.discovery e)
  else .ok none

/-- A service whose listener has a port. -/
def create (settings : Settings) (id : Identifier) (port : Nat) (provider : Files.Provider)
    (listening : Option Discovery.Listening) : Except Fault Service := do
  let self : Sender := ⟨id, UInt16.ofNat port, settings.machine.getD ""⟩
  let node ← Node.create self settings.version settings.bucketSlots settings.bucketSlots provider
  return ⟨settings, node, .initial, listening, .none, true, []⟩

def pace (s : Service) : LookupPace := ⟨s.settings.lookupWidth, s.settings.lookupRounds⟩

/-- Let the handler see and read what has changed. -/
def attend (s : Service) : Service :=
  let handler := (s.handler.notice s.node.bootstrap).read s.node.bootstrap
  { s with
    handler
    events := s.events ++ List.replicate (handler.completions - s.handler.completions) .bootstrapped }

def welcome (s : Service) (contact : Peer) : Service :=
  { s with
    stats := { s.stats with acknowledged := s.stats.acknowledged + 1 }
    events := s.events ++ [.discovered contact] }

def poll (s : Service) (found : Except Discovery.ListenError (List IpAddr))
    (bind : Discovery.Bind) : Service :=
  match s.listening with
  | none => s
  | some listening =>
    match listening.poll found bind with
    | (listening, .ok true) =>
      { s with listening := some listening, events := s.events ++ [.interfacesChanged] }
    | (listening, _) => { s with listening := some listening }

def listeners (s : Service) : List SocketAddr := (s.listening.map (·.listeners)).getD []

/-- Stop. Nothing is listened to any more. -/
def stop (s : Service) : Service := { s with running := false, listening := none }

def canAnnounce (s : Service) : Bool := s.running && s.listening.isSome

/-- What is announced to the groups, under a number that is drawn for it. -/
def announcement (s : Service) (correlation : UInt32) : Announcement :=
  ⟨correlation, s.settings.version, s.node.self.port, s.node.self.machine⟩

def discovered (s : Service) : List Peer :=
  s.events.filterMap fun
    | .discovered contact => some contact
    | _ => none

structure Report where
  running : Bool
  bootstrapped : Bool
  good : Nat
  questionable : Nat
  /-- The buckets that have contacts. -/
  buckets : Nat
  listeners : List SocketAddr
  stats : Discovery.Stats

/-- A service that was stopped shows nothing. -/
def report? (s : Service) (now : Moment) : Option Report :=
  if s.running then
    some {
      running := true
      bootstrapped := s.node.bootstrap.state = .complete
      good := s.node.table.countWith now .good
      questionable := s.node.table.countWith now .questionable
      buckets := s.node.table.buckets.toList.countP fun b => !b.contacts.isEmpty
      listeners := s.listeners
      stats := s.stats }
  else none

/-- The download that a request asks a service for. -/
def download (s : Service) (r : DownloadRequest) (suffix : UInt32) : Download :=
  ⟨r, s.settings.chunkLimit, s.settings.parallelLimit, s.settings.downloadRounds, suffix⟩

end Service
end LocalSwarm
