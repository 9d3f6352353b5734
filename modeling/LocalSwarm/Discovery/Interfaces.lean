import LocalSwarm.Address

/-! Listening on the interfaces of the host. The listeners are bound anew whenever a look at the
interfaces finds other addresses than the one before. -/
namespace LocalSwarm.Discovery

inductive ListenError where
  | noFreePort (version : IpVersion)
  | io
deriving DecidableEq

def ListenError.message : ListenError → String
  | .noFreePort version => s!"no free {version.name} discovery port"
  | .io => "io error"

/-- The order of addresses: by family, then by number. -/
def addressBefore : IpAddr → IpAddr → Bool
  | .v4 a, .v4 b => a ≤ b
  | .v4 _, .v6 _ => true
  | .v6 _, .v4 _ => false
  | .v6 a, .v6 b => a.toNat ≤ b.toNat

def addressSet (addresses : List IpAddr) : List IpAddr :=
  (addresses.mergeSort addressBefore).eraseReps

/-- Binding the listener of one entry of the settings, which names a family, for the interfaces of
that family. Of two entries that name the same family one can be refused. -/
abbrev Bind := Nat → IpVersion → List IpAddr → Except ListenError SocketAddr

/-- The addresses found last and the listeners that are in place. -/
structure Listening where
  versions : List IpVersion
  interfaces : List IpAddr
  listeners : List SocketAddr

namespace Listening

def ofVersion (interfaces : List IpAddr) (version : IpVersion) : List IpAddr :=
  interfaces.filter (·.version = version)

/-- Bind every entry anew. That fails if no listener is left and some entry was refused, for the
reason of the last. -/
def rebuild (l : Listening) (bind : Bind) : Listening × Except ListenError Unit :=
  let attempts := l.versions.zipIdx.map fun (v, n) => bind n v (ofVersion l.interfaces v)
  let bound := attempts.filterMap fun
    | .ok a => some a
    | .error _ => none
  let refused := attempts.filterMap fun
    | .ok _ => none
    | .error e => some e
  let l := { l with listeners := bound }
  match bound, refused.getLast? with
  | [], some e => (l, .error e)
  | _, _ => (l, .ok ())

/-- Start with the interfaces found, or none if the look at them fails. -/
def start (versions : List IpVersion) (found : Except ListenError (List IpAddr)) (bind : Bind) :
    Listening × Except ListenError Unit :=
  let interfaces := match found with
    | .ok addresses => addressSet addresses
    | .error _ => []
  rebuild ⟨versions, interfaces, []⟩ bind

/-- Look again. Tells whether the interfaces have changed and were listened on anew. -/
def poll (l : Listening) (found : Except ListenError (List IpAddr)) (bind : Bind) :
    Listening × Except ListenError Bool :=
  match found with
  | .error e => (l, .error e)
  | .ok addresses =>
    let interfaces := addressSet addresses
    if interfaces = l.interfaces then (l, .ok false)
    else
      let (l, outcome) := { l with interfaces }.rebuild bind
      (l, outcome.map fun _ => true)

end Listening
end LocalSwarm.Discovery
