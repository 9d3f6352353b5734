import LocalSwarm.Identifier

/-! The fields that wire formats are made of. Numbers are big-endian, texts are ASCII behind a
length of two bytes, blobs stand behind a length of four, lists behind a count of two. Every field
is written by a function to bytes and taken back by a reader. -/
namespace LocalSwarm

inductive DecodeError where
  | truncated
  | unknownOperation (code : UInt8)
  | nonAscii
  | invalidFamily (family : UInt8)
  | invalidTag (tag : UInt8)
  | invalidRange (start stop : UInt64)
  | trailingBytes (count : Nat)
deriving DecidableEq, Repr

def DecodeError.message : DecodeError → String
  | .truncated => "message truncated"
  | .unknownOperation code => s!"unknown operation code {code.toNat}"
  | .nonAscii => "string is not ascii"
  | .invalidFamily family => s!"invalid address family {family.toNat}"
  | .invalidTag tag => s!"invalid tag {tag.toNat}"
  | .invalidRange start stop => s!"invalid byte range {start.toNat}..={stop.toNat}"
  | .trailingBytes count => s!"{count} trailing bytes"

namespace Wire

/-- No text or list on the wire is longer than this. -/
def shortLimit : Nat := 65535

def isAscii (bytes : Bytes) : Bool := bytes.all (· < 128)

/-- The bytes of a text in UTF-8, which for ASCII are its characters. -/
def utf8 (text : String) : Bytes := text.toUTF8.toList

/-- The text whose characters are the given ASCII bytes. -/
def ofAscii (bytes : Bytes) : String := String.ofList (bytes.map fun byte => Char.ofNat byte.toNat)

/-! ### Writing -/

def word16 (n : UInt16) : Bytes := Bytes.ofNat 2 n.toNat
def word32 (n : UInt32) : Bytes := Bytes.ofNat 4 n.toNat
def word64 (n : UInt64) : Bytes := Bytes.ofNat 8 n.toNat
def flag (b : Bool) : Bytes := [if b then 1 else 0]

/-- Bytes beyond the limit of a text are cut off. -/
def text (s : String) : Bytes :=
  let bytes := (utf8 s).take shortLimit
  Bytes.ofNat 2 bytes.length ++ bytes

def blob (bytes : Bytes) : Bytes := Bytes.ofNat 4 bytes.length ++ bytes

/-! ### Reading -/

/-- A reader takes a field off the front of the bytes. -/
abbrev Reader (α : Type) := StateT Bytes (Except DecodeError) α

def fail {α : Type} (error : DecodeError) : Reader α := fun _ => .error error

def take (count : Nat) : Reader Bytes := fun bytes =>
  let (head, tail) := bytes.splitAt count
  if head.length = count then .ok (head, tail) else .error .truncated

def readByte : Reader UInt8 := do
  return (← take 1).headD 0

def readFlag : Reader Bool := do
  return (← readByte) != 0

def readWord16 : Reader UInt16 := do
  return UInt16.ofNat (Bytes.toNat (← take 2))

def readWord32 : Reader UInt32 := do
  return UInt32.ofNat (Bytes.toNat (← take 4))

def readWord64 : Reader UInt64 := do
  return UInt64.ofNat (Bytes.toNat (← take 8))

def readIdentifier : Reader Identifier := do
  return ⟨BitVec.ofNat 160 (Bytes.toNat (← take 20))⟩

def readText : Reader String := do
  let length ← readWord16
  let bytes ← take length.toNat
  if isAscii bytes then return ofAscii bytes else fail .nonAscii

def readBlob : Reader Bytes := do
  let length ← readWord32
  take length.toNat

/-- As many elements as counted, in front of which stand those already read, last one first. -/
def readMore {α : Type} (read : Reader α) : (count : Nat) → List α → Reader (List α)
  | 0, done => fun bytes => .ok (done.reverse, bytes)
  | count + 1, done => fun bytes =>
    match read bytes with
    | .ok (a, rest) => readMore read count (a :: done) rest
    | .error e => .error e

def readList {α : Type} (read : Reader α) (count : Nat) : Reader (List α) := readMore read count []

/-- What a reader makes of bytes that it must read to their end. -/
def readAll {α : Type} (read : Reader α) (bytes : Bytes) : Except DecodeError α :=
  match read bytes with
  | .ok (a, []) => .ok a
  | .ok (_, rest) => .error (.trailingBytes rest.length)
  | .error e => .error e

end Wire
end LocalSwarm
