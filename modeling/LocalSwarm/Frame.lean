import LocalSwarm.Wire.Field

/-! Frames on a stream: a length of four bytes and that many bytes of body. -/
namespace LocalSwarm

inductive TransportError where
  | io
  | timeout
  | frameTooLarge (length : Nat)
  | decode (cause : DecodeError)
  | closed
deriving DecidableEq, Repr

def TransportError.message : TransportError → String
  | .io => "io error"
  | .timeout => "timed out"
  | .frameTooLarge length => s!"frame of {length} bytes exceeds the limit"
  | .decode _ => "invalid message"
  | .closed => "connection closed"

namespace Frame

def limit : Nat := 32 * 1024 * 1024

def write (body : Bytes) : Except TransportError Bytes :=
  if limit < body.length then .error (.frameTooLarge body.length)
  else .ok (Bytes.ofNat 4 body.length ++ body)

/-- The first body on a stream that ends with the given bytes, and what follows it. A stream that
ends before the length is complete is closed; one that ends within a body is broken. -/
def read (stream : Bytes) : Except TransportError (Bytes × Bytes) :=
  let (head, rest) := stream.splitAt 4
  let length := Bytes.toNat head
  if head.length < 4 then .error .closed
  else if limit < length then .error (.frameTooLarge length)
  else
    let (body, rest) := rest.splitAt length
    if body.length < length then .error .io else .ok (body, rest)

theorem read_ok_length {stream body rest : Bytes} (h : read stream = .ok (body, rest)) :
    rest.length < stream.length := by
  simp only [read, List.splitAt_eq] at h
  split at h
  · cases h
  · split at h
    · cases h
    · split at h
      · cases h
      · rename_i short _ _
        cases h
        simp only [List.length_drop, List.length_take] at short ⊢
        omega

/-- All bodies up to the first error, and that error. -/
def readAll (stream : Bytes) : List Bytes × TransportError :=
  match h : read stream with
  | .ok (body, rest) =>
    have := read_ok_length h
    let (bodies, e) := readAll rest
    (body :: bodies, e)
  | .error e => ([], e)
termination_by stream.length

end Frame
end LocalSwarm
