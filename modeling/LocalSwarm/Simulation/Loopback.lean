import LocalSwarm.Connection.Pool
import LocalSwarm.Service
import LocalSwarm.Simulation.Timeline

/-! Services on a host that lets sockets be bound but conveys nothing between them: no connection
is made, and no datagram arrives. -/
namespace LocalSwarm.Simulation

/-- The services that were started, by name, the files of the host and its next spare port. -/
structure Loopback where
  services : List (String × Service)
  files : Files.Tree
  spare : Nat

namespace Loopback

/-- No connection is ever made. -/
def line : Line Unit Empty where
  dial _ _ := ((), .error .io)
  exchange _ c _ := c.elim

def answer (a : SocketAddr) (m : Message) : Answer := (Pool.request line () .empty a m).2.2

/-- A node and the files of its host, with nobody else in reach. -/
def world : World Site where
  site s := s
  update s site := { site with now := s.now }
  send s _ _ := (s, 0)
  receive s a m := .ok (s, answer a m)

/-- The first port that a host chooses itself. -/
def empty (files : Files.Tree) : Loopback := ⟨[], files, 32768⟩

def service? (l : Loopback) (name : String) : Option Service := l.services.lookup name

def put (l : Loopback) (name : String) (s : Service) : Loopback :=
  { l with services := l.services.filter (·.1 ≠ name) ++ [(name, s)] }

def running (l : Loopback) : List Service := (l.services.map (·.2)).filter (·.running)

def servicePorts (l : Loopback) : Ports := ⟨l.running.map (·.node.self.port.toNat), l.spare⟩

def discoveryPorts (l : Loopback) : Ports :=
  ⟨l.running.flatMap fun s => s.listeners.map (·.port.toNat), l.spare⟩

def perform {α : Type} (l : Loopback) (s : Service) (p : Plan α) :
    Except Fault (Loopback × Service × Option α) := do
  let (site, result) ← world.perform ⟨s.node, l.files, 0⟩ p none
  return ({ l with files := site.files }, { s with node := site.node }.attend, result)

/-- Greet whoever is at an address, and make a way into the swarm from there. -/
def greet (l : Loopback) (s : Service) (address : SocketAddr) :
    Except Fault (Loopback × Service) := do
  match ← l.perform s (handshake address s.node.provider.buckets) with
  | (l, s, some (.ok h)) =>
    let (l, s, _) ← l.perform (s.welcome h.contact) (Bootstrap.attempt s.pace h.contact)
    return (l, s)
  | (l, s, _) => return (l, s)

/-- Start a service that greets the given addresses. -/
def start (l : Loopback) (name : String) (settings : Settings) (id : Identifier)
    (provider : Files.Provider) (found : Except Discovery.ListenError (List IpAddr))
    (nodes : List SocketAddr) : Except Fault (Loopback × Except StartError Service) :=
  match l.servicePorts.reserve settings.servicePorts with
  | none => .ok (l, .error (.noFreePort settings.servicePorts.1 settings.servicePorts.2))
  | some (port, _) =>
    let l := { l with spare := l.spare + 1 }
    match Service.listen settings found (l.discoveryPorts.bind settings.discoveryPorts) with
    | .error e => .ok (l, .error e)
    | .ok listening => do
      let s ← Service.create settings id port provider listening
      let (l, s) ← nodes.foldlM (fun (l, s) address => greet l s address)
        ({ l with spare := l.spare + 1 }, s)
      return (l.put name s, .ok s)

def poll (l : Loopback) (s : Service) (found : Except Discovery.ListenError (List IpAddr)) :
    Loopback × Service :=
  ({ l with spare := l.spare + 1 },
    s.poll found (l.discoveryPorts.bind s.settings.discoveryPorts))

end Loopback
end LocalSwarm.Simulation
