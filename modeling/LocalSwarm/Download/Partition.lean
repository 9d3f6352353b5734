import LocalSwarm.ByteRange
import LocalSwarm.Sums

/-! Parting what is missing of a file among the contacts that have it. Every missing range is cut
into equal pieces, the last of which takes the remainder, and the pieces are dealt out in turn. -/
namespace LocalSwarm.Partition

/-- The bytes of all ranges, as a number of sixty-four bits. -/
def total (pending : List ByteRange) : Except Fault Nat :=
  let sum := sumOver ByteRange.length pending
  if ByteRange.limit < sum then .error .overflow else .ok sum

def share (total contacts chunk : Nat) : Nat := max (total / contacts) (max chunk 1)

/-- The first piece of a range and what is left of it. A piece is as long as a share, unless less
than two shares are left. -/
def splitPiece (r : ByteRange) (share : Nat) : ByteRange × Option ByteRange :=
  if min (2 * share) ByteRange.limit ≤ r.size then r.splitChunk share else (r, none)

theorem size_splitPiece_rest {r rest : ByteRange} {share : Nat}
    (h : (splitPiece r share).2 = some rest) : rest.size < r.size := by
  unfold splitPiece at h
  split at h
  · exact ByteRange.size_splitChunk_rest h
  · cases h

def pieces (r : ByteRange) (share : Nat) : List ByteRange :=
  match h : splitPiece r share with
  | (first, some rest) =>
    have : rest.size < r.size := size_splitPiece_rest (by rw [h])
    first :: pieces rest share
  | (first, none) => [first]
termination_by r.size

/-- Deal out in turn: in turn `k` hand `j` gets the item at `k * hands + j`, as long as there are
items. -/
def deal {α : Type} (hands : Nat) (items : List α) : List (List α) :=
  let row := items.toArray
  (List.range hands).map fun hand =>
    (List.range (row.size / hands + 1)).filterMap fun turn => row[turn * hands + hand]?

theorem length_deal {α : Type} (hands : Nat) (items : List α) :
    (deal hands items).length = hands := by
  simp only [deal, List.length_map, List.length_range]

/-- The lists of the contacts are set aside in advance, so there are no more contacts than lists of
24 bytes within 2⁶³ − 1 bytes. -/
def handLimit : Nat := 0x7fffffffffffffff / 24

/-- One list of pieces for every contact. The offset behind every range must still be a number of
sixty-four bits. -/
def partition (pending : List ByteRange) (contacts chunk : Nat) :
    Except Fault (List (List ByteRange)) := do
  if contacts = 0 then return []
  if handLimit < contacts then .error (.tooManySlots contacts)
  let total ← total pending
  if pending.any (·.stop = ByteRange.limit) then .error .overflow
  return deal contacts (pending.flatMap fun r => pieces r (share total contacts chunk))

end LocalSwarm.Partition
