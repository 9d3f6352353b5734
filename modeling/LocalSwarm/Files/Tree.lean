import LocalSwarm.Files.Part
import LocalSwarm.Files.Path
import LocalSwarm.Wire.Field

/-! A tree of folders and files, and what can be done to it by path. Whatever names no entry, or
leads through a file, fails with the reason that a host gives for it. -/
namespace LocalSwarm.Files

inductive FileError where
  | notFound
  | exists
  | notFolder
  | isFolder
  | nameTooLong
  | zeroByte
  /-- More was asked for than is served at once. -/
  | rangeTooLarge
  /-- No file can be given the length. -/
  | lengthOutOfRange
  /-- Somebody else made the destination in the meantime. -/
  | destinationAppeared
  | inputOutput
  | noSpace
deriving DecidableEq, Repr

def FileError.message : FileError → String
  | .notFound => "No such file or directory (os error 2)"
  | .exists => "File exists (os error 17)"
  | .notFolder => "Not a directory (os error 20)"
  | .isFolder => "Is a directory (os error 21)"
  | .nameTooLong => "File name too long (os error 36)"
  | .zeroByte => "file name contained an unexpected NUL byte"
  | .rangeTooLarge => "requested range is too large"
  | .lengthOutOfRange => "out of range integral type conversion attempted"
  | .destinationAppeared => "destination appeared during the download"
  | .inputOutput => "Input/output error (os error 5)"
  | .noSpace => "No space left on device (os error 28)"

/-- A file: its bytes, when they were last changed, in nanoseconds before or after the epoch, and
whether they may be changed. -/
structure File where
  content : Bytes
  modified : Int
  readOnly : Bool
deriving DecidableEq

inductive Entry where
  | folder
  | file (file : File)
  /-- A file that a download is writing and nobody else may change. -/
  | part (part : Part)
deriving DecidableEq

/-- The names that lead from the root to an entry. -/
abbrev Location := List String

/-- The changes that a host refuses for reasons of its own, and why: a full disk, a failing one. -/
structure Disk where
  /-- No file is made. -/
  make : Option FileError
  /-- A file that was made is not given its length. -/
  resize : Option FileError
  /-- What is written gets into a file only up to so many bytes. -/
  write : Option (FileError × Nat)
  /-- What was written is not kept for good. -/
  sync : Option FileError
deriving DecidableEq

namespace Disk

/-- Nothing is refused. -/
def willing : Disk := ⟨none, none, none, none⟩

/-- Why bytes that are written and synced do not stay. -/
def loses (d : Disk) : Option FileError := (d.write.map Prod.fst).or d.sync

end Disk

/-- Every entry below the root, which is a folder, and the disk that holds them. -/
@[ext]
structure Tree where
  entries : List (Location × Entry)
  disk : Disk := .willing

namespace Tree

def empty : Tree := { entries := [] }

def entry? (t : Tree) (place : Location) : Option Entry :=
  if place.isEmpty then some .folder else t.entries.lookup place

def nameLimit : Nat := 255
def pathLimit : Nat := 4095

def set (t : Tree) (place : Location) (e : Entry) : Tree :=
  { t with entries := t.entries.eraseP (·.1 = place) ++ [(place, e)] }

/-- Take away an entry and all below it. -/
def erase (t : Tree) (place : Location) : Tree :=
  { t with entries := t.entries.filter fun e => !place.isPrefixOf e.1 }

/-- Make the folders on the way to a location, where they are missing. -/
def makeFolders (t : Tree) (place : Location) : Tree :=
  (List.range place.length).foldl
    (fun t n =>
      let above := place.take (n + 1)
      if (t.entry? above).isSome then t else t.set above .folder) t

def put (t : Tree) (place : Location) (f : File) : Tree :=
  (t.makeFolders place.dropLast).set place (.file f)

/-- Follow parts from a folder. The last one need not exist. -/
def follow (t : Tree) : Location → List String → Except FileError Location
  | here, [] => .ok here
  | here, part :: rest =>
    if part = "." then t.follow here rest
    else if part = ".." then t.follow here.dropLast rest
    else if nameLimit < part.utf8ByteSize then .error .nameTooLong
    else
      let next := here ++ [part]
      match t.entry? next, rest with
      | some .folder, _ => t.follow next rest
      | _, [] => .ok next
      | some _, _ :: _ => .error .notFolder
      | none, _ :: _ => .error .notFound

/-- Texts that a host refuses as paths altogether. -/
def check (path : String) : Except FileError Unit :=
  if path = "" then .error .notFound
  else if path.toList.contains '\x00' then .error .zeroByte
  else if pathLimit < path.utf8ByteSize then .error .nameTooLong
  else .ok ()

def endsWithSlash (path : String) : Bool := path.toList.getLast? = some '/'

/-- The parts of a path, with a dot for a slash at its end, which only a folder can bear. -/
def walkParts (path : String) : List String :=
  Path.parts path ++ if endsWithSlash path then ["."] else []

def lookup (t : Tree) (path : String) : Except FileError (Location × Entry) := do
  check path
  let place ← t.follow [] (walkParts path)
  match t.entry? place with
  | some e => return (place, e)
  | none => .error .notFound

def isFolder (t : Tree) (path : String) : Bool :=
  match t.lookup path with
  | .ok (_, .folder) => true
  | _ => false

/-- The folder that the last part of a path is looked for in, and that part. -/
def above (t : Tree) (path : String) : Except FileError (Location × Option String) := do
  check path
  let parts := Path.parts path
  let folder ← t.follow [] (parts.dropLast ++ ["."])
  match t.entry? folder with
  | some .folder => return (folder, parts.getLast?)
  | some _ => .error .notFolder
  | none => .error .notFound

/-- Where a path would make a new file. -/
def vacancy (t : Tree) (path : String) : Except FileError Location := do
  match ← t.above path with
  | (_, none) => .error .isFolder
  | (folder, some name) =>
    if endsWithSlash path then .error .isFolder
    else if name = "." || name = ".." then .error .exists
    else if nameLimit < name.utf8ByteSize then .error .nameTooLong
    else if (t.entry? (folder ++ [name])).isSome then .error .exists
    else return folder ++ [name]

/-- Where a path would take a file that is moved there. Only a folder can go where a path ends in a
slash. -/
def landing (t : Tree) (path : String) : Except FileError Location := do
  match ← t.above path with
  | (_, none) => .error .isFolder
  | (folder, some name) =>
    if nameLimit < name.utf8ByteSize then .error .nameTooLong
    else if endsWithSlash path then .error .notFolder
    else return folder ++ [name]

/-- Make a new entry. -/
def create (t : Tree) (path : String) (e : Entry) : Except FileError (Tree × Location) := do
  let place ← t.vacancy path
  match t.disk.make with
  | some cause => .error cause
  | none => return (t.set place e, place)

def writePart (t : Tree) (place : Location) (offset : Nat) (data : Bytes) : Tree :=
  match t.entry? place with
  | some (.part p) => t.set place (.part (p.write offset data))
  | _ => t

/-- Write into a part file. Tells why not all of it has got there. -/
def write (t : Tree) (place : Location) (offset : Nat) (data : Bytes) : Tree × Option FileError :=
  match t.disk.write with
  | none => (t.writePart place offset data, none)
  | some (cause, through) => (t.writePart place offset (data.take through), some cause)

/-- A file as a download leaves it. -/
def finished (content : Bytes) : Entry := .file ⟨content, 0, false⟩

/-- Write a whole file that must not exist yet. Nothing is left of one that is not kept. -/
def save (t : Tree) (path : String) (data : Bytes) : Tree × Option FileError :=
  match t.create path (finished data) with
  | .error cause => (t, some cause)
  | .ok (made, place) =>
    match t.disk.loses with
    | some cause => (made.erase place, some cause)
    | none => (made, none)

/-- Make the part file at a location a file at its destination, unless something is there. What was
written must be synced before. -/
def persist (t : Tree) (place : Location) (destination : String) : Except FileError Tree :=
  match t.disk.sync with
  | some cause => .error cause
  | none => do
    if (t.lookup destination).isOk then .error .destinationAppeared
    let target ← t.landing destination
    match t.entry? place with
    | some (.part p) => return (t.erase place).set target (finished p.content)
    | _ => .error .notFound

end Tree
end LocalSwarm.Files
