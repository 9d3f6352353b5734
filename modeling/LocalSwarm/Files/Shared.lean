import LocalSwarm.Files.Tree
import LocalSwarm.Message

/-! Folders shared with other peers under the names of buckets. A file is found by its bucket, the
folder within it and its name, none of which can lead outside the bucket. -/
namespace LocalSwarm.Files

/-- The buckets that are shared and the paths of their folders. -/
structure SharedFolders where
  roots : List (String × String)

namespace SharedFolders

def empty : SharedFolders := ⟨[]⟩

/-- Share a folder. A later folder of the same bucket replaces the one before. -/
def share (s : SharedFolders) (bucket path : String) : SharedFolders :=
  ⟨s.roots.eraseP (·.1 = bucket) ++ [(bucket, path)]⟩

def buckets (s : SharedFolders) : List String :=
  (s.roots.map (·.1)).mergeSort fun a b => a ≤ b

/-- The longest range that is served at once. -/
def servedLimit : Nat := 16 * 1024 * 1024

/-- The path of a file, unless a part of its folder or its name is not plain. -/
def resolve (root : String) (file : FileQuery) : Option String :=
  let parts := Path.parts file.folder ++ [file.name]
  if parts.all Path.isPlain then some (parts.foldl Path.join root) else none

/-- The version of a file is the moment of its last change, or zero where that is before the epoch. -/
def versionOf (f : File) : String := toString f.modified.toNat

def statusOf (f : File) : FileStatus := ⟨true, true, UInt64.ofNat f.content.length, versionOf f⟩

/-- The status of a file, and the file if it is one. Only what keeps the host from answering is an
error; a file that is not there is not. -/
def locate (s : SharedFolders) (t : Tree) (query : FileQuery) :
    Except FileError (FileStatus × Option File) :=
  match s.roots.lookup query.bucket with
  | none => .ok (.unknown, none)
  | some root =>
    match resolve root query with
    | none => .ok (.missing, none)
    | some path =>
      match t.lookup path with
      | .ok (_, .file f) => .ok (statusOf f, some f)
      | .ok (_, .part p) => .ok (⟨true, true, UInt64.ofNat p.length, "0"⟩, some ⟨p.content, 0, true⟩)
      | .ok (_, .folder) => .ok (.missing, none)
      | .error .notFound => .ok (.missing, none)
      | .error e => .error e

def status (s : SharedFolders) (t : Tree) (query : FileQuery) : Except FileError FileStatus :=
  (s.locate t query).map (·.1)

def slice (content : Bytes) (range : ByteRange) : Bytes :=
  (content.drop range.start).take range.length

def read (s : SharedFolders) (t : Tree) (query : FileQuery) (range : ByteRange) :
    Except FileError (FileStatus × Bytes) := do
  if servedLimit < range.length then .error .rangeTooLarge
  let (status, file?) ← s.locate t query
  return (status, (file?.map fun f => slice f.content range).getD [])

end SharedFolders

/-- What a node offers to others: no files at all, or shared folders. -/
inductive Provider where
  | nothing
  | folders (shared : SharedFolders)

namespace Provider

def buckets : Provider → List String
  | .nothing => []
  | .folders shared => shared.buckets

def status (p : Provider) (t : Tree) (query : FileQuery) : Except FileError FileStatus :=
  match p with
  | .nothing => .ok .unknown
  | .folders shared => shared.status t query

def read (p : Provider) (t : Tree) (query : FileQuery) (range : ByteRange) :
    Except FileError (FileStatus × Bytes) :=
  match p with
  | .nothing => .ok (.unknown, [])
  | .folders shared => shared.read t query range

end Provider
end LocalSwarm.Files
