import LocalSwarm.Files.Tree
import LocalSwarm.Message
import LocalSwarm.Text.Quoted

/-! What to download and where to put it, and why that can fail. -/
namespace LocalSwarm

/-- A file to fetch, as the peers that share it describe it, and the folder it is put into. -/
structure DownloadRequest where
  folder : String
  bucket : String
  /-- The folder of the file within the bucket. -/
  path : String
  /-- The name of the file, there and here. -/
  name : String
  size : UInt64
  version : String
deriving DecidableEq

inductive DownloadFlaw where
  | zeroSize
  | noVersion
  | notShortAscii
  | notPlainName
deriving DecidableEq, Repr

def DownloadFlaw.message : DownloadFlaw → String
  | .zeroSize => "size must not be zero"
  | .noVersion => "version must not be empty"
  | .notShortAscii => "bucket, prefix, name and version must be short ASCII strings"
  | .notPlainName => "name must be a plain file name"

inductive DownloadError where
  | invalid (flaw : DownloadFlaw)
  | folderNotFound (folder : String)
  | alreadyExists (destination : String)
  | notFound
  | incomplete (missing : Nat)
  | cancelled
  | file (cause : Files.FileError)
deriving DecidableEq, Repr

def DownloadError.message : DownloadError → String
  | .invalid flaw => s!"invalid argument: {flaw.message}"
  | .folderNotFound folder => s!"destination folder {Text.quoted folder} does not exist"
  | .alreadyExists path => s!"destination file {Text.quoted path} already exists"
  | .notFound => "file doesn't exist in any node"
  | .incomplete missing => s!"file partially downloaded, {missing} bytes missing"
  | .cancelled => "download cancelled"
  | .file _ => "io error"

namespace DownloadRequest

def destination (r : DownloadRequest) : String := Files.Path.join r.folder r.name

def query (r : DownloadRequest) : FileQuery := ⟨r.bucket, r.path, r.name⟩

def isShortAscii (text : String) : Bool :=
  Wire.isAscii (Wire.utf8 text) && text.utf8ByteSize ≤ Wire.shortLimit

/-- The first flaw of a request, the folder and the destination coming last. -/
def validate (r : DownloadRequest) (t : Files.Tree) : Except DownloadError Unit :=
  if r.size = 0 then .error (.invalid .zeroSize)
  else if r.version = "" then .error (.invalid .noVersion)
  else if !List.all [r.bucket, r.path, r.name, r.version] isShortAscii then
    .error (.invalid .notShortAscii)
  else if !Files.Path.isPlain r.name then .error (.invalid .notPlainName)
  else if !t.isFolder r.folder then .error (.folderNotFound r.folder)
  else
    match t.lookup r.destination with
    | .ok _ => .error (.alreadyExists r.destination)
    | .error _ => .ok ()

/-- Whether a peer has exactly the copy asked for. -/
def qualifies (size : UInt64) (version : String) (s : FileStatus) : Bool :=
  s.bucketFound && s.fileFound && s.size = size && s.version = version

/-- Whether an answer is the asked range of the copy asked for. -/
def isValidChunk (size : UInt64) (version : String) (range : ByteRange) (s : FileStatus)
    (data : Bytes) : Bool :=
  qualifies size version s && data.length = range.length

end DownloadRequest
end LocalSwarm
