import LocalSwarm.Wire.Field

/-! Announcements, the datagrams by which peers make themselves known to a group. -/
namespace LocalSwarm

/-- Whom to ask for a handshake, and at which port. The correlation number tells repeated
announcements of one query from those of the next. -/
structure Announcement where
  correlation : UInt32
  version : UInt16
  port : UInt16
  machine : String
deriving DecidableEq

namespace Announcement

/-- A listener reads no more than this of a datagram. -/
def datagramLimit : Nat := 1500

def encode (a : Announcement) : Bytes :=
  Wire.word32 a.correlation ++ Wire.word16 a.version ++ Wire.word16 a.port ++ Wire.text a.machine

def read : Wire.Reader Announcement := do
  let correlation ← Wire.readWord32
  let version ← Wire.readWord16
  let port ← Wire.readWord16
  let machine ← Wire.readText
  return { correlation, version, port, machine }

def decode (bytes : Bytes) : Except DecodeError Announcement := Wire.readAll read bytes

end Announcement
end LocalSwarm
