import LocalSwarm.Bytes

/-! Internet addresses of both families, and the endpoints reached at a port of them. -/
namespace LocalSwarm

inductive IpVersion where
  | v4
  | v6
deriving DecidableEq, Repr

inductive IpAddr where
  | v4 (value : UInt32)
  | v6 (value : BitVec 128)
deriving DecidableEq

/-- A port of a host. Only the sixth version knows flow labels and scopes. -/
inductive SocketAddr where
  | v4 (ip : UInt32) (port : UInt16)
  | v6 (ip : BitVec 128) (port : UInt16) (flow : UInt32) (scope : UInt32)
deriving DecidableEq

namespace IpVersion

def name : IpVersion → String
  | .v4 => "IPv4"
  | .v6 => "IPv6"

def unspecified : IpVersion → IpAddr
  | .v4 => .v4 0
  | .v6 => .v6 0

end IpVersion

namespace IpAddr

def version : IpAddr → IpVersion
  | .v4 _ => .v4
  | .v6 _ => .v6

def atPort : IpAddr → UInt16 → SocketAddr
  | .v4 ip, port => .v4 ip port
  | .v6 ip, port => .v6 ip port 0 0

end IpAddr

namespace SocketAddr

def ip : SocketAddr → IpAddr
  | .v4 ip _ => .v4 ip
  | .v6 ip _ _ _ => .v6 ip

def port : SocketAddr → UInt16
  | .v4 _ port => port
  | .v6 _ port _ _ => port

def version (address : SocketAddr) : IpVersion := address.ip.version

def withPort : SocketAddr → UInt16 → SocketAddr
  | .v4 ip _, port => .v4 ip port
  | .v6 ip _ flow scope, port => .v6 ip port flow scope

theorem ip_withPort (address : SocketAddr) (port : UInt16) : (address.withPort port).ip = address.ip := by
  cases address <;> rfl

theorem port_withPort (address : SocketAddr) (port : UInt16) : (address.withPort port).port = port := by
  cases address <;> rfl

end SocketAddr
end LocalSwarm
