import LocalSwarm.Peer
import LocalSwarm.Time

/-! Contacts: peers together with what was observed of them. The status of a contact follows from
when it was last heard from and from how many requests it has left unanswered since. -/
namespace LocalSwarm

/-- What is to be expected of a contact, worst first. -/
inductive Status where
  | bad
  | questionable
  | good
deriving DecidableEq, Repr

/-- A known peer, when it last talked to us, and how many requests it left unanswered since. -/
structure Contact where
  peer : Peer
  lastActive : Option Moment
  failures : Nat
deriving DecidableEq

namespace Contact

/-- For this long after it was heard from a contact is good. -/
def freshness : Span := Span.ofMinutes 15

def failureLimit : Nat := 2

def heard (now : Moment) (peer : Peer) : Contact := ⟨peer, some now, 0⟩

/-- A contact of which only others told. -/
def hearsay (peer : Peer) : Contact := ⟨peer, none, 0⟩

def silent (peer : Peer) : Contact := ⟨peer, none, failureLimit⟩

def id (c : Contact) : Identifier := c.peer.id

def status (now : Moment) (c : Contact) : Status :=
  if failureLimit ≤ c.failures then .bad
  else
    match c.lastActive with
    | some seen => if now - seen < freshness then .good else .questionable
    | none => .questionable

/-- Good and questionable contacts are worth a request. -/
def isOnline (now : Moment) (c : Contact) : Bool := c.status now != .bad

/-- A message arrived from the contact, sent from this address. -/
def touch (now : Moment) (address : SocketAddr) (c : Contact) : Contact :=
  ⟨{ c.peer with address }, some now, 0⟩

def fail (c : Contact) : Contact := { c with failures := c.failures + 1 }

/-- Learn from another account of the same peer. What was heard replaces all; hearsay only moves
a contact that was never heard from itself. -/
def learn (c other : Contact) : Contact :=
  if other.lastActive.isSome then { c with peer := other.peer, lastActive := other.lastActive, failures := 0 }
  else if c.lastActive.isNone then { c with peer := { c.peer with address := other.peer.address } }
  else c

end Contact
end LocalSwarm
