import LocalSwarm.Frame
import LocalSwarm.Message

/-! Messages as bytes. A header of operation, flags, correlation number and sender comes before
the fields of the body. Writing cuts texts and lists of peers at their limit; reading refuses
whatever writing does not produce, down to the number of bytes, except that it ignores further
flags and takes any byte but zero for yes. -/
namespace LocalSwarm

def Operation.code : Operation → UInt8
  | .acknowledge => 1
  | .ping => 2
  | .store => 3
  | .findNode => 4
  | .findValue => 5
  | .checkFile => 6
  | .download => 7

def Operation.ofCode (code : UInt8) : Except DecodeError Operation :=
  match code with
  | 1 => .ok .acknowledge
  | 2 => .ok .ping
  | 3 => .ok .store
  | 4 => .ok .findNode
  | 5 => .ok .findValue
  | 6 => .ok .checkFile
  | 7 => .ok .download
  | code => .error (.unknownOperation code)

namespace Wire

/-! ### Writing -/

/-- The number of buckets is written in two bytes, whatever it is; all of them follow. -/
def greeting (g : Greeting) : Bytes :=
  word16 g.version ++ Bytes.ofNat 2 g.buckets.length ++ g.buckets.flatMap text

def fileQuery (q : FileQuery) : Bytes := text q.bucket ++ text q.folder ++ text q.name

def fileStatus (s : FileStatus) : Bytes :=
  flag s.bucketFound ++ flag s.fileFound ++ word64 s.size ++ text s.version

def ipAddr : IpAddr → Bytes
  | .v4 value => 4 :: Bytes.ofNat 4 value.toNat
  | .v6 value => 6 :: Bytes.ofNat 16 value.toNat

def peer (p : Peer) : Bytes :=
  p.id.toBytes ++ text p.machine ++ ipAddr p.address.ip ++ word16 p.address.port

/-- Peers beyond the limit of a list are left out. -/
def peers (ps : List Peer) : Bytes :=
  let ps := ps.take shortLimit
  Bytes.ofNat 2 ps.length ++ ps.flatMap peer

def request : Request → Bytes
  | .acknowledge g => greeting g
  | .ping => []
  | .store key value => key.toBytes ++ blob value
  | .findNode target count => target.toBytes ++ word16 count
  | .findValue target count => target.toBytes ++ word16 count
  | .checkFile file => fileQuery file
  | .download file range =>
    fileQuery file ++ Bytes.ofNat 8 range.start ++ Bytes.ofNat 8 range.stop

def response : Response → Bytes
  | .acknowledge g => greeting g
  | .ping => []
  | .store stored => flag stored
  | .findNode ps => peers ps
  | .findValue (.value bytes) => 0 :: blob bytes
  | .findValue (.closer ps) => 1 :: peers ps
  | .checkFile status => fileStatus status
  | .download status data => fileStatus status ++ blob data

/-- The first bit marks a response, the second one that it is an error. -/
def bodyFlags : Body → UInt8
  | .request _ => 0
  | .response _ => 1
  | .failure .. => 3

def body : Body → Bytes
  | .request r => request r
  | .response r => response r
  | .failure _ cause => text cause

/-! ### Reading -/

def readGreeting : Reader Greeting := do
  let version ← readWord16
  let count ← readWord16
  let buckets ← readList readText count.toNat
  return { version, buckets }

def readFileQuery : Reader FileQuery := do
  let bucket ← readText
  let folder ← readText
  let name ← readText
  return { bucket, folder, name }

def readFileStatus : Reader FileStatus := do
  let bucketFound ← readFlag
  let fileFound ← readFlag
  let size ← readWord64
  let version ← readText
  return { bucketFound, fileFound, size, version }

def readIpAddr : Reader IpAddr := do
  match ← readByte with
  | 4 => return .v4 (UInt32.ofNat (Bytes.toNat (← take 4)))
  | 6 => return .v6 (BitVec.ofNat 128 (Bytes.toNat (← take 16)))
  | family => fail (.invalidFamily family)

def readPeer : Reader Peer := do
  let id ← readIdentifier
  let machine ← readText
  let ip ← readIpAddr
  let port ← readWord16
  return { id, machine, address := ip.atPort port }

def readPeers : Reader (List Peer) := do
  let count ← readWord16
  readList readPeer count.toNat

/-- Only spans that one frame could carry back are accepted. -/
def readRange : Reader ByteRange := do
  let start ← readWord64
  let stop ← readWord64
  match ByteRange.between start stop with
  | .ok range =>
    if range.stop - range.start < Frame.limit then return range
    else fail (.invalidRange start stop)
  | .error _ => fail (.invalidRange start stop)

def readRequest : Operation → Reader Request
  | .acknowledge => return .acknowledge (← readGreeting)
  | .ping => return .ping
  | .store => return .store (← readIdentifier) (← readBlob)
  | .findNode => return .findNode (← readIdentifier) (← readWord16)
  | .findValue => return .findValue (← readIdentifier) (← readWord16)
  | .checkFile => return .checkFile (← readFileQuery)
  | .download => return .download (← readFileQuery) (← readRange)

def readFound : Reader Found := do
  match ← readByte with
  | 0 => return .value (← readBlob)
  | 1 => return .closer (← readPeers)
  | tag => fail (.invalidTag tag)

def readResponse : Operation → Reader Response
  | .acknowledge => return .acknowledge (← readGreeting)
  | .ping => return .ping
  | .store => return .store (← readFlag)
  | .findNode => return .findNode (← readPeers)
  | .findValue => return .findValue (← readFound)
  | .checkFile => return .checkFile (← readFileStatus)
  | .download => return .download (← readFileStatus) (← readBlob)

/-- The error flag counts, whether or not the response flag stands beside it. -/
def readBody (operation : Operation) (flags : UInt8) : Reader Body := do
  if flags &&& 2 != 0 then return .failure operation (← readText)
  else if flags &&& 1 != 0 then return .response (← readResponse operation)
  else return .request (← readRequest operation)

def readOperation : Reader Operation := do
  match Operation.ofCode (← readByte) with
  | .ok operation => return operation
  | .error e => fail e

def readSender : Reader Sender := do
  let id ← readIdentifier
  let port ← readWord16
  let machine ← readText
  return { id, port, machine }

end Wire

namespace Message

def encode (m : Message) : Bytes :=
  m.body.operation.code :: Wire.bodyFlags m.body :: (Wire.word32 m.correlation ++ m.sender.id.toBytes
    ++ Wire.word16 m.sender.port ++ Wire.text m.sender.machine ++ Wire.body m.body)

def read : Wire.Reader Message := do
  let operation ← Wire.readOperation
  let flags ← Wire.readByte
  let correlation ← Wire.readWord32
  let sender ← Wire.readSender
  let body ← Wire.readBody operation flags
  return { correlation, sender, body }

def decode (bytes : Bytes) : Except DecodeError Message := Wire.readAll read bytes

end Message
end LocalSwarm
