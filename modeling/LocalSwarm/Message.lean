import LocalSwarm.ByteRange
import LocalSwarm.Peer

/-! What peers ask and answer. Every message carries its sender, so that the receiver learns of
it, and the correlation number that pairs an answer with its request. -/
namespace LocalSwarm

inductive Operation where
  | acknowledge
  | ping
  | store
  | findNode
  | findValue
  | checkFile
  | download
deriving DecidableEq, Repr

/-- Who sent a message. Its address is that of the connection. -/
structure Sender where
  id : Identifier
  port : UInt16
  machine : String
deriving DecidableEq

/-- The sender as a peer at the host that its message came from. -/
def Sender.peerAt (s : Sender) (host : IpAddr) : Peer := ⟨s.id, s.machine, host.atPort s.port⟩

/-- The handshake: which protocol is spoken and which buckets are shared. -/
structure Greeting where
  version : UInt16
  buckets : List String
deriving DecidableEq

structure FileQuery where
  bucket : String
  folder : String
  name : String
deriving DecidableEq

structure FileStatus where
  bucketFound : Bool
  fileFound : Bool
  size : UInt64
  version : String
deriving DecidableEq, Inhabited

/-- What is known of a file in a bucket that is not shared. -/
def FileStatus.unknown : FileStatus := ⟨false, false, 0, ""⟩

/-- What is known of a file that a shared bucket does not have. -/
def FileStatus.missing : FileStatus := ⟨true, false, 0, ""⟩

/-- The answer to the search for a value: the value, or peers closer to its key. -/
inductive Found where
  | value (bytes : Bytes)
  | closer (peers : List Peer)
deriving DecidableEq

inductive Request where
  | acknowledge (greeting : Greeting)
  | ping
  | store (key : Identifier) (value : Bytes)
  | findNode (target : Identifier) (count : UInt16)
  | findValue (target : Identifier) (count : UInt16)
  | checkFile (file : FileQuery)
  | download (file : FileQuery) (range : ByteRange)
deriving DecidableEq

inductive Response where
  | acknowledge (greeting : Greeting)
  | ping
  | store (stored : Bool)
  | findNode (peers : List Peer)
  | findValue (found : Found)
  | checkFile (status : FileStatus)
  | download (status : FileStatus) (data : Bytes)
deriving DecidableEq

inductive Body where
  | request (request : Request)
  | response (response : Response)
  | failure (operation : Operation) (text : String)
deriving DecidableEq

structure Message where
  correlation : UInt32
  sender : Sender
  body : Body
deriving DecidableEq

def Request.operation : Request → Operation
  | .acknowledge _ => .acknowledge
  | .ping => .ping
  | .store .. => .store
  | .findNode .. => .findNode
  | .findValue .. => .findValue
  | .checkFile _ => .checkFile
  | .download .. => .download

def Response.operation : Response → Operation
  | .acknowledge _ => .acknowledge
  | .ping => .ping
  | .store _ => .store
  | .findNode _ => .findNode
  | .findValue _ => .findValue
  | .checkFile _ => .checkFile
  | .download .. => .download

def Body.operation : Body → Operation
  | .request r => r.operation
  | .response r => r.operation
  | .failure operation _ => operation

end LocalSwarm
