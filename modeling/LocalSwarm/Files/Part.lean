import LocalSwarm.Bytes

/-! Part files: files of a fixed length that receive their bytes piece by piece, in any order. -/
namespace LocalSwarm.Files

/-- The length of the file and what was written into it at which offsets, last write first. -/
structure Part where
  length : Nat
  writes : List (Nat × Bytes)
deriving DecidableEq

namespace Part

def blank (length : Nat) : Part := ⟨length, []⟩

def write (p : Part) (offset : Nat) (data : Bytes) : Part :=
  { p with writes := (offset, data) :: p.writes }

/-- Lay bytes over what stands at an offset. -/
def overlay (content : Array UInt8) (write : Nat × Bytes) : Array UInt8 :=
  (write.2.zipIdx write.1).foldl (fun content item => content.setIfInBounds item.2 item.1) content

/-- All bytes of the file. Where nothing was written they are zero. -/
def content (p : Part) : Bytes :=
  (p.writes.reverse.foldl overlay (Array.replicate p.length 0)).toList

end Part
end LocalSwarm.Files
