/-! How far a node is with finding its way into the swarm. Attempts run side by side; each sets the
state when it begins and when it ends. -/
namespace LocalSwarm

inductive BootstrapState where
  /-- No peer is known yet. -/
  | awaiting
  | underway
  /-- At least one attempt was completed. This stays so. -/
  | complete
deriving DecidableEq, Repr

/-- The state that attempts share, and how often it was changed, by which those who watch it see
that something is new. -/
structure Bootstrap where
  state : BootstrapState
  changes : Nat
deriving DecidableEq

namespace Bootstrap

def initial : Bootstrap := ⟨.awaiting, 0⟩

/-- Once complete, further attempts only add contacts. -/
def set (b : Bootstrap) (state : BootstrapState) : Bootstrap :=
  if b.state = state || b.state = .complete then b else ⟨state, b.changes + 1⟩

/-- The state to fall back to after a failed attempt: with contacts online we are in anyway. -/
def settled (b : Bootstrap) (anyOnline : Bool) : BootstrapState :=
  if b.state = .complete || anyOnline then .complete else .awaiting

end Bootstrap
end LocalSwarm
