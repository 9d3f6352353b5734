import LocalSwarm.Fault

/-! Spans of bytes within a file, and how they are cut into chunks. -/
namespace LocalSwarm

/-- The offsets from `start` to `stop`, both included. Offsets have sixty-four bits. -/
structure ByteRange where
  start : Nat
  stop : Nat
  start_le_stop : start ≤ stop
  stop_lt : stop < 0x10000000000000000
deriving DecidableEq

namespace ByteRange

def limit : Nat := 0xffffffffffffffff

/-- The span between two offsets, which must not be in reverse order. -/
def between (start stop : UInt64) : Except Fault ByteRange :=
  if h : start.toNat ≤ stop.toNat then .ok ⟨start.toNat, stop.toNat, h, stop.toNat_lt⟩
  else .error (.invalidRange start.toNat stop.toNat)

def size (r : ByteRange) : Nat := r.stop - r.start + 1

/-- The size as a number of sixty-four bits, which the range of all offsets exceeds by one. -/
def length (r : ByteRange) : Nat := min r.size limit

def render (r : ByteRange) : String := s!"{r.start}..={r.stop}"

/-- The first `chunk` bytes of a range and what is left of it. A chunk has at least one byte. -/
def splitChunk (r : ByteRange) (chunk : Nat) : ByteRange × Option ByteRange :=
  if h : r.start + (max chunk 1 - 1) < r.stop then
    (⟨r.start, r.start + (max chunk 1 - 1), by omega, by have := r.stop_lt; omega⟩,
      some ⟨r.start + (max chunk 1 - 1) + 1, r.stop, by omega, r.stop_lt⟩)
  else (r, none)

theorem size_splitChunk_rest {r rest : ByteRange} {chunk : Nat}
    (h : (r.splitChunk chunk).2 = some rest) : rest.size < r.size := by
  unfold splitChunk at h
  split at h
  · cases h
    simp only [size]
    omega
  · cases h

/-- The consecutive chunks of a range, in increasing offset order. -/
def chunks (r : ByteRange) (chunk : Nat) : List ByteRange :=
  match h : r.splitChunk chunk with
  | (first, some rest) =>
    have : rest.size < r.size := size_splitChunk_rest (by rw [h])
    first :: rest.chunks chunk
  | (first, none) => [first]
termination_by r.size

def firstChunks (r : ByteRange) (chunk : Nat) : (count : Nat) → List ByteRange
  | 0 => []
  | count + 1 =>
    match r.splitChunk chunk with
    | (first, some rest) => first :: rest.firstChunks chunk count
    | (first, none) => [first]

end ByteRange
end LocalSwarm
