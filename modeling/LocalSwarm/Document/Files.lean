import LocalSwarm.Document.Messages
import LocalSwarm.Document.Values
import LocalSwarm.Download.Request
import LocalSwarm.Files.Shared

/-! Files, folders and what is downloaded into them in documents. -/
namespace LocalSwarm.Document

/-- The location of a path below a base. -/
def within (base : Files.Location) (path : String) : Files.Location := base ++ Files.Path.parts path

/-- Put a folder, or a file and the folders above it, into a tree. -/
def plant (base : Files.Location) (t : Files.Tree) (d : Document) : Reading Files.Tree := do
  match ← optional asText d "dir" with
  | some folder => return t.makeFolders (within base folder)
  | none =>
    let modified ← fieldOr asInt d "mtime_ns" 0
    return t.put (within base (← textAt d "path")) ⟨← bytesAt d "data", modified, false⟩

def plantAll (base : Files.Location) (t : Files.Tree) (d : Document) : Reading Files.Tree := do
  (← listAt .ok d "tree").foldlM (plant base) t

/-- Shared folders, as pairs of a bucket and a path. -/
def asShared (base : String) (pairs : List Document) : Reading Files.SharedFolders :=
  pairs.foldlM (fun shared pair => do
    match ← listOf asText pair with
    | [bucket, folder] => return shared.share bucket (Files.Path.join base folder)
    | _ => refuse "not a shared folder") Files.SharedFolders.empty

def asDownloadRequest (folder : String) (name : String) (d : Document) : Reading DownloadRequest := do
  return ⟨folder, ← textAt d "bucket", ← textAt d "prefix", ← textAt d name, ← u64 d "size",
    ← textAt d "version"⟩

def ofEntry : Files.Entry → Document
  | .folder => text "dir"
  | .file f => list [ofBytes f.content, truth f.readOnly]
  | .part p => list [ofBytes p.content, truth false]

def ofTree (base : Files.Location) (t : Files.Tree) : Document :=
  record (t.entries.filterMap fun (place, entry) =>
    if base.isPrefixOf place && base.length < place.length then
      some (String.intercalate "/" (place.drop base.length), ofEntry entry)
    else none)

end LocalSwarm.Document
