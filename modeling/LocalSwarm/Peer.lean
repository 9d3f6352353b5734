import LocalSwarm.Address.Text
import LocalSwarm.Identifier

/-! Who a peer is and where it is reached. -/
namespace LocalSwarm

/-- Identity and endpoint of a peer. A peer is the same peer at any endpoint: whoever compares
peers compares their identifiers. -/
structure Peer where
  id : Identifier
  machine : String
  address : SocketAddr
deriving DecidableEq

namespace Peer

def same (a b : Peer) : Bool := a.id = b.id

def describe (p : Peer) : String := s!"{p.id.shortHex}@{p.address.render}({p.machine})"

def distanceTo (target : Identifier) (p : Peer) : Distance := p.id.distance target

end Peer
end LocalSwarm
