import LocalSwarm.Download.Request
import LocalSwarm.Download.Transfer

/-! Downloads. The contacts that have the wanted copy are found by probing all. A small file is
fetched whole from the first contact that delivers it. A larger one is written into a part file,
round after round: what a round leaves missing is parted anew among the contacts that then have
the file. A chunk that cannot be written fails the download once the round is over. A download is a
machine that waits for probes and chunks; between its steps others may change the tree. -/
namespace LocalSwarm

/-- What a download asks for, how much it asks for at once and how often. -/
structure Download where
  request : DownloadRequest
  chunkLimit : Nat
  width : Nat
  rounds : Nat
  /-- What the name of the part file ends in, to tell it from others. -/
  suffix : UInt32

namespace Download

/-- What a download waits for. -/
inductive Stage where
  /-- The contacts that have the file. -/
  | probing
  /-- The whole file from a contact. Others may be asked after it. -/
  | whole (contact : Peer) (others : List Peer)
  /-- The chunks of a round of transfers. -/
  | filling (part : Files.Location) (round : Nat) (fill : Fill)
  /-- The contacts that have the file after a round that left ranges missing. -/
  | probingAgain (part : Files.Location) (round : Nat) (pending : List ByteRange)
  /-- Nothing any more. -/
  | ended (result : Except DownloadError String)

inductive Event where
  | probed (contacts : List Peer)
  | chunk (transfer : Nat) (answer : Option (FileStatus × Bytes))
  | cancel

/-- A chunk holds at least one byte. -/
def chunkSize (d : Download) : Nat := max d.chunkLimit 1

def partPath (d : Download) : String :=
  Files.Path.join d.request.folder
    ("." ++ d.request.name ++ "." ++ Bytes.hex (Bytes.ofNat 4 d.suffix.toNat) ++ ".part")

/-- The range of all bytes of the file. A file of no bytes is never asked for. -/
def all (d : Download) : ByteRange :=
  ⟨0, d.request.size.toNat - 1, by omega, by have := d.request.size.toNat_lt; omega⟩

def missing (pending : List ByteRange) : Nat := sumOver ByteRange.length pending

/-- The data of an answer that is the asked range of the wanted copy. -/
def accepted (d : Download) (range : ByteRange) (answer : Option (FileStatus × Bytes)) :
    Option Bytes :=
  match answer with
  | some (status, data) =>
    if DownloadRequest.isValidChunk d.request.size d.request.version range status data
    then some data else none
  | none => none

def fail {α : Type} (t : Files.Tree) (e : DownloadError) : Except α (Files.Tree × Stage) :=
  .ok (t, .ended (.error e))

/-- End in failure, without the part file. -/
def discard {α : Type} (t : Files.Tree) (part : Files.Location) (e : DownloadError) :
    Except α (Files.Tree × Stage) := fail (t.erase part) e

def complete (d : Download) (t : Files.Tree) (part : Files.Location) :
    Except Fault (Files.Tree × Stage) :=
  match t.persist part d.request.destination with
  | .ok t => .ok (t, .ended (.ok d.request.destination))
  | .error e => discard t part (.file e)

/-- After a round is over: the end if a transfer failed, nothing is missing or no round is left, else
another probe. -/
def settle (d : Download) (t : Files.Tree) (part : Files.Location) (round : Nat) (fill : Fill) :
    Except Fault (Files.Tree × Stage) :=
  if fill.isOver then
    match fill.failed with
    | some cause => discard t part (.file cause)
    | none =>
      match fill.pending with
      | [] => d.complete t part
      | pending =>
        if d.rounds ≤ round then discard t part (.incomplete (missing pending))
        else .ok (t, .probingAgain part (round + 1) pending)
  else .ok (t, .filling part round fill)

def beginRound (d : Download) (t : Files.Tree) (part : Files.Location) (round : Nat)
    (pending : List ByteRange) (contacts : List Peer) : Except Fault (Files.Tree × Stage) := do
  let pieces ← Partition.partition pending contacts.length d.chunkSize
  d.settle t part round (Fill.start contacts pieces d.width)

def askWhole (d : Download) (t : Files.Tree) : List Peer → Except Fault (Files.Tree × Stage)
  | contact :: others => .ok (t, .whole contact others)
  | [] => fail t (.incomplete d.request.size.toNat)

/-- The longest length that a file can be given. -/
def lengthLimit : Nat := 0x7fffffffffffffff

/-- Why a part file that was made cannot be given the length of the file. -/
def unfit (d : Download) (t : Files.Tree) : Option Files.FileError :=
  if lengthLimit < d.request.size.toNat then some .lengthOutOfRange else t.disk.resize

/-- Begin with the contacts that have the file. -/
def proceed (d : Download) (t : Files.Tree) (contacts : List Peer) :
    Except Fault (Files.Tree × Stage) :=
  if contacts.isEmpty then fail t .notFound
  else if d.request.size.toNat ≤ d.chunkSize then d.askWhole t contacts
  else
    match t.create d.partPath (.part (.blank d.request.size.toNat)) with
    | .error e => fail t (.file e)
    | .ok (t, part) =>
      match d.unfit t with
      | some cause => discard t part (.file cause)
      | none => d.beginRound t part 0 [d.all] contacts

/-- A request that is in order begins with a probe. -/
def start (d : Download) (t : Files.Tree) : Stage :=
  match d.request.validate t with
  | .error e => .ended (.error e)
  | .ok () => .probing

def takeWhole (d : Download) (t : Files.Tree) (others : List Peer)
    (answer : Option (FileStatus × Bytes)) : Except Fault (Files.Tree × Stage) :=
  match d.accepted d.all answer with
  | none => d.askWhole t others
  | some data =>
    match t.save d.request.destination data with
    | (t, none) => .ok (t, .ended (.ok d.request.destination))
    | (t, some cause) => fail t (.file cause)

def takeChunk (d : Download) (t : Files.Tree) (part : Files.Location) (round : Nat) (fill : Fill)
    (number : Nat) (answer : Option (FileStatus × Bytes)) : Except Fault (Files.Tree × Stage) :=
  match fill.at? number with
  | none => .ok (t, .filling part round fill)
  | some x =>
    let range := x.chunk d.chunkSize
    match d.accepted range answer with
    | some data =>
      match t.write part range.start data with
      | (t, none) => d.settle t part round (fill.deliver number d.chunkSize)
      | (t, some cause) => d.settle t part round (fill.abandon number cause)
    | none => d.settle t part round (fill.refuse number)

/-- What an event makes of the tree and of the stage. Events that are not waited for change
nothing. -/
def step (d : Download) (t : Files.Tree) : Stage → Event → Except Fault (Files.Tree × Stage)
  | .probing, .probed contacts => d.proceed t contacts
  | .probing, .cancel => fail t .cancelled
  | .whole _ others, .chunk _ answer => d.takeWhole t others answer
  | .whole .., .cancel => fail t .cancelled
  | .filling part round fill, .chunk number answer =>
    d.takeChunk t part round fill number answer
  | .filling part _ _, .cancel => discard t part .cancelled
  | .probingAgain part round pending, .probed contacts =>
    if contacts.isEmpty then discard t part (.incomplete (missing pending))
    else d.beginRound t part round pending contacts
  | .probingAgain part _ _, .cancel => discard t part .cancelled
  | stage, _ => .ok (t, stage)

/-- The chunks that are asked for: in which transfer, from whom and which range. -/
def asked (d : Download) : Stage → List (Nat × Peer × ByteRange)
  | .whole contact _ => [(0, contact, d.all)]
  | .filling _ _ fill => fill.active.map fun (number, x) => (number, x.contact, x.chunk d.chunkSize)
  | _ => []

end Download
end LocalSwarm
