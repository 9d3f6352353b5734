import LocalSwarm.Announcement
import LocalSwarm.Address
import LocalSwarm.Discovery.DuplicateWindow

/-! The filter behind the listeners. It turns a datagram into a peer to greet, or counts why not. -/
namespace LocalSwarm.Discovery

structure Stats where
  sent : Nat
  received : Nat
  duplicates : Nat
  malformed : Nat
  ignored : Nat
  acknowledged : Nat
  restarts : Nat
deriving DecidableEq, Inhabited

def Stats.none : Stats := ⟨0, 0, 0, 0, 0, 0, 0⟩

structure DiscoveredPeer where
  address : SocketAddr
  machine : String
  correlation : UInt32
deriving DecidableEq

/-- An announcement is repeated if machine and correlation number are. -/
abbrev AnnouncementKey := String × UInt32

structure Filter where
  machine : String
  version : UInt16
  window : DuplicateWindow AnnouncementKey
  stats : Stats

namespace Filter

def create (machine : String) (version : UInt16) (window : Span) : Filter :=
  ⟨machine, version, DuplicateWindow.create window, Stats.none⟩

/-- Whether an announcement comes from another machine and in our own version. -/
def concerns (f : Filter) (a : Announcement) : Bool :=
  a.version = f.version && a.machine ≠ f.machine

/-- What a datagram from an address at a moment leads to. The peer is reached at the address that
the datagram came from and the port that it announces. -/
def accept (f : Filter) (now : Moment) (datagram : Bytes) (source : SocketAddr) :
    Filter × Option DiscoveredPeer :=
  match Announcement.decode datagram with
  | .error _ => ({ f with stats := { f.stats with malformed := f.stats.malformed + 1 } }, none)
  | .ok a =>
    if f.concerns a then
      let (window, fresh) := f.window.insert now (a.machine, a.correlation)
      if fresh then
        ({ f with window, stats := { f.stats with received := f.stats.received + 1 } },
          some ⟨source.withPort a.port, a.machine, a.correlation⟩)
      else ({ f with window, stats := { f.stats with duplicates := f.stats.duplicates + 1 } }, none)
    else ({ f with stats := { f.stats with ignored := f.stats.ignored + 1 } }, none)

end Filter
end LocalSwarm.Discovery
