import LocalSwarm.Download.Partition
import LocalSwarm.Files.Tree
import LocalSwarm.Peer

/-! Transfers. A contact is asked for its pieces, chunk by chunk in increasing offset order; the
first chunk that it does not deliver, or that cannot be written, ends its transfer. Up to a given
number of transfers go on at once. -/
namespace LocalSwarm

/-- What is still to come from one contact: the piece in work and those after it. -/
structure Transfer where
  contact : Peer
  piece : ByteRange
  later : List ByteRange

namespace Transfer

def start? (contact : Peer) (pieces : List ByteRange) : Option Transfer :=
  match pieces with
  | piece :: later => some ⟨contact, piece, later⟩
  | [] => none

def chunk (x : Transfer) (limit : Nat) : ByteRange := (x.piece.splitChunk limit).1

def remaining (x : Transfer) : List ByteRange := x.piece :: x.later

/-- What is left to do once the chunk was delivered. -/
def delivered? (x : Transfer) (limit : Nat) : Option Transfer :=
  start? x.contact ((x.piece.splitChunk limit).2.toList ++ x.later)

end Transfer

/-- One round of transfers, each with a number: those that wait for their turn, those that are
under way, what ended transfers have not delivered, and why the first one that failed did. -/
structure Fill where
  waiting : List (Nat × Transfer)
  active : List (Nat × Transfer)
  undelivered : List ByteRange
  failed : Option Files.FileError

namespace Fill

/-- A round in which every contact with pieces has a transfer and the first `width` begin. -/
def start (contacts : List Peer) (pieces : List (List ByteRange)) (width : Nat) : Fill :=
  let transfers := (contacts.zip pieces).filterMap fun (c, ps) => Transfer.start? c ps
  let numbered := transfers.zipIdx.map fun (x, number) => (number, x)
  let (active, waiting) := numbered.splitAt (max width 1)
  ⟨waiting, active, [], none⟩

def at? (f : Fill) (number : Nat) : Option Transfer := f.active.lookup number

def others (f : Fill) (number : Nat) : List (Nat × Transfer) :=
  f.active.eraseP (·.1 == number)

/-- A transfer ends, and the next waiting one begins. -/
def release (f : Fill) (number : Nat) : Fill :=
  match f.waiting with
  | next :: waiting => { f with waiting, active := f.others number ++ [next] }
  | [] => { f with active := f.others number }

def deliver (f : Fill) (number limit : Nat) : Fill :=
  match f.at? number with
  | none => f
  | some x =>
    match x.delivered? limit with
    | some next => { f with active := (number, next) :: f.others number }
    | none => f.release number

def refuse (f : Fill) (number : Nat) : Fill :=
  match f.at? number with
  | none => f
  | some x => { f with undelivered := f.undelivered ++ x.remaining }.release number

/-- A transfer fails, as its chunk cannot be written. The others go on. -/
def abandon (f : Fill) (number : Nat) (cause : Files.FileError) : Fill :=
  { f with failed := f.failed.or (some cause) }.release number

def isOver (f : Fill) : Bool := f.active.isEmpty && f.waiting.isEmpty

def rangeBefore (a b : ByteRange) : Bool :=
  a.start < b.start || (a.start = b.start && a.stop ≤ b.stop)

/-- What the round has left missing, in offset order. -/
def pending (f : Fill) : List ByteRange := f.undelivered.mergeSort rangeBefore

end Fill
end LocalSwarm
