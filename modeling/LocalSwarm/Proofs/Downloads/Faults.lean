import Mathlib.Algebra.Order.BigOperators.Group.Finset
import LocalSwarm.Proofs.Activities.Plans
import LocalSwarm.Proofs.Downloads.Chunks

/-! Faults of downloads. What is missing of a file is always part of it, and no offset is missing
twice, so that it can be parted unless there are more contacts than room for lists. Main statement:
`conforms_plan`, which also tells what a download asks for. -/
namespace LocalSwarm
open ByteRange (cover cover_perm cover_nil)

namespace Download

namespace Sparse

variable {size : Nat} {rs : List ByteRange}

theorem sum_le (sparse : Sparse size rs) : sumOver ByteRange.size rs ≤ size := by
  calc sumOver ByteRange.size rs
      = ∑ o ∈ Finset.range size, cover rs o := (ByteRange.sum_cover sparse.inside).symm
    _ ≤ ∑ o ∈ Finset.range size, 1 := by
        refine Finset.sum_le_sum fun o member => ?_
        have most := sparse o
        rwa [if_pos (Finset.mem_range.1 member)] at most
    _ = size := by rw [← Finset.card_eq_sum_ones, Finset.card_range]

/-- Parting what is missing fails only for more contacts than there can be lists. -/
theorem partition_fault {contacts chunk : Nat} {fault : Fault} (sparse : Sparse size rs)
    (low : size ≤ ByteRange.limit) (failed : Partition.partition rs contacts chunk = .error fault) :
    fault = .tooManySlots contacts := by
  have inside : ∀ r ∈ rs, r.stop < ByteRange.limit := fun r member =>
    (sparse.inside r member).trans_le low
  have fits : sumOver ByteRange.length rs ≤ ByteRange.limit := by
    rw [ByteRange.sum_length_eq inside]
    exact sparse.sum_le.trans low
  rcases Nat.lt_or_ge Partition.handLimit contacts with many | few
  · rw [Partition.partition, if_neg (Nat.ne_of_gt (Nat.zero_lt_of_lt many)), if_pos many] at failed
    cases failed
    rfl
  · obtain ⟨parts, done⟩ := Partition.partition_isOk few fits inside
    cases done.symm.trans failed

end Sparse

variable {d : Download} {t t' : Files.Tree} {stage next : Stage} {event : Event}

theorem size_le (d : Download) : d.size ≤ ByteRange.limit :=
  Nat.le_of_lt_succ d.request.size.toNat_lt

theorem sparse_all (d : Download) (pos : 0 < d.size) : Sparse d.size [d.all] := fun o =>
  (tiles_all d pos o).le

/-- What is still missing at a stage is part of the file. A file that is fetched whole is no longer
than a chunk. -/
def Bounded (d : Download) : Stage → Prop
  | .whole .. => d.size ≤ d.chunkSize
  | .filling _ _ fill => Sparse d.size fill.left
  | .probingAgain _ _ pending => Sparse d.size pending
  | _ => True

theorem bounded_settled {part : Files.Location} {round : Nat} {fill : Fill}
    (settled : Settled d t part round fill t' next) (sparse : Sparse d.size fill.left) :
    d.Bounded next := by
  cases settled with
  | goesOn => exact sparse
  | failed | saved | unsaved | givenUp => trivial
  | again ends =>
    intro o
    rw [cover_perm fill.pending_perm, ← Fill.left_of_isOver ends]
    exact sparse o

theorem bounded_begun {part : Files.Location} {round : Nat} {pending : List ByteRange}
    {contacts : List Peer} {pieces : List (List ByteRange)} (present : contacts ≠ [])
    (parted : Partition.partition pending contacts.length d.chunkSize = .ok pieces)
    (settled : Settled d t part round (Fill.start contacts pieces d.width) t' next)
    (sparse : Sparse d.size pending) : d.Bounded next := by
  obtain ⟨length, same⟩ := Partition.cover_partition (List.length_pos_of_ne_nil present) parted
  refine bounded_settled settled fun o => ?_
  rw [Fill.cover_left_start (Nat.le_of_eq length), same]
  exact sparse o

theorem bounded_turn (turn : Turn d t stage event t' next) (pos : 0 < d.size)
    (bounded : d.Bounded stage) : d.Bounded next := by
  cases turn with
  | asksWhole small => exact small
  | begins present _ _ _ parted settled =>
    exact bounded_begun present parted settled (d.sparse_all pos)
  | resumes present parted settled => exact bounded_begun present parted settled bounded
  | asksNext => exact bounded
  | @delivered _ _ _ _ x _ _ _ _ found _ _ settled =>
    refine bounded_settled settled fun o => ?_
    have left := Fill.cover_left_deliver found d.chunkSize o
    exact (Nat.le_add_left _ _).trans (left ▸ bounded o)
  | @abandoned _ _ _ _ _ _ _ _ cause _ _ found _ _ settled =>
    refine bounded_settled settled fun o => ?_
    have left := Fill.cover_left_abandon found cause o
    exact (Nat.le_add_left _ _).trans (left ▸ bounded o)
  | refused found _ settled =>
    refine bounded_settled settled fun o => ?_
    rw [Fill.cover_left_refuse found]
    exact bounded o
  | notFound | blocked | unfit | exhausted | saved | unsaved | lost | nobodyLeft => trivial

theorem beginRound_fault {part : Files.Location} {round : Nat} {pending : List ByteRange}
    {contacts : List Peer} {fault : Fault} (sparse : Sparse d.size pending)
    (failed : d.beginRound t part round pending contacts = .error fault) :
    fault = .tooManySlots contacts.length := by
  unfold beginRound at failed
  cases parted : Partition.partition pending contacts.length d.chunkSize with
  | error reason =>
    rw [parted] at failed
    cases failed
    exact sparse.partition_fault d.size_le parted
  | ok pieces =>
    rw [parted] at failed
    obtain ⟨settled, done⟩ := settle_isOk d t part round (Fill.start contacts pieces d.width)
    cases done.symm.trans failed

theorem proceed_fault {contacts : List Peer} {fault : Fault} (pos : 0 < d.size)
    (failed : d.proceed t contacts = .error fault) : fault = .tooManySlots contacts.length := by
  unfold proceed at failed
  split at failed
  · cases failed
  · split at failed
    · cases contacts <;> cases failed
    · split at failed
      · cases failed
      · split at failed
        · cases failed
        · exact beginRound_fault (d.sparse_all pos) failed

theorem takeWhole_isOk (d : Download) (t : Files.Tree) (others : List Peer)
    (answer : Option (FileStatus × Bytes)) : ∃ next, d.takeWhole t others answer = .ok next := by
  unfold takeWhole
  split
  · cases others <;> exact ⟨_, rfl⟩
  · split <;> exact ⟨_, rfl⟩

theorem takeChunk_isOk (d : Download) (t : Files.Tree) (part : Files.Location) (round : Nat)
    (fill : Fill) (number : Nat) (answer : Option (FileStatus × Bytes)) :
    ∃ next, d.takeChunk t part round fill number answer = .ok next := by
  unfold takeChunk
  split
  · exact ⟨_, rfl⟩
  · dsimp only
    split
    · split <;> exact settle_isOk d _ part round _
    · exact settle_isOk d _ part round _

/-- A step fails only for more contacts than there is room for lists. -/
theorem step_fault {fault : Fault} (pos : 0 < d.size) (bounded : d.Bounded stage)
    (failed : d.step t stage event = .error fault) :
    ∃ contacts, fault = .tooManySlots contacts := by
  cases stage with
  | probing =>
    cases event with
    | probed contacts => exact ⟨_, proceed_fault pos failed⟩
    | chunk | cancel => cases failed
  | whole contact others =>
    cases event with
    | chunk number answer =>
      obtain ⟨next, done⟩ := takeWhole_isOk d t others answer
      cases done.symm.trans failed
    | probed | cancel => cases failed
  | filling part round fill =>
    cases event with
    | chunk number answer =>
      obtain ⟨next, done⟩ := takeChunk_isOk d t part round fill number answer
      cases done.symm.trans failed
    | probed | cancel => cases failed
  | probingAgain part round pending =>
    cases event with
    | probed contacts =>
      rw [step] at failed
      split at failed
      · cases failed
      · exact ⟨_, beginRound_fault bounded failed⟩
    | chunk | cancel => cases failed
  | ended => cases event <;> cases failed

/-! ### The plan -/

/-- What a download relies on: that it may ask all contacts about its file and for its chunks, and
break off if there are too many of them. -/
structure Allowed (d : Download) (terms : Terms) : Prop where
  probes : ∀ p, terms.asks ⟨.contact p, .checkFile d.request.query⟩
  fetches : ∀ p range, d.Within range → terms.asks ⟨.contact p, .download d.request.query range⟩
  overflows : ∀ contacts, terms.breaks (.tooManySlots contacts)

theorem Bounded.within (bounded : d.Bounded stage) (pos : 0 < d.size) {slot : Nat} {p : Peer}
    {range : ByteRange} (asked : (slot, p, range) ∈ d.asked stage) : d.Within range := by
  refine within_of_asked pos ?_ ?_ asked
  · cases stage with
    | whole => exact bounded
    | probing | filling | probingAgain | ended => trivial
  · rintro part round fill rfl
    exact bounded.inside

theorem conforms_probe {terms : Terms} {file : FileQuery} {size : UInt64} {version : String}
    {width : Nat} (asks : ∀ p, terms.asks ⟨.contact p, .checkFile file⟩) :
    (probe file size version width).Conforms terms := by
  refine Plan.Conforms.bind (.look fun site _ => .done site) fun site => ?_
  refine (Plan.conforms_inOrder fun c member => ?_).bind fun _ => .done _
  obtain ⟨p, -, rfl⟩ := List.mem_map.1 member
  exact asks p

theorem alike_dropAt (d : Download) (stage : Stage) (s : Site) : s.Alike (d.dropAt stage s) := by
  unfold dropAt
  split <;> exact ⟨rfl, rfl⟩

theorem conforms_follow {terms : Terms} (allowed : d.Allowed terms) (pos : 0 < d.size)
    (stage : Stage) (out : List Nat) (bounded : d.Bounded stage) :
    (d.follow stage out).Conforms terms := by
  have goesOn (event : Event) (out : List Nat) :
      (d.resume d.follow stage event out).Conforms terms := by
    refine .look fun site _ => ?_
    split
    · rename_i fault failed
      obtain ⟨contacts, rfl⟩ := step_fault pos bounded failed
      exact .broken (allowed.overflows contacts)
    · rename_i files next done
      split
      · rename_i awaited
        refine .change (fun _ => ⟨rfl, rfl⟩) ?_
        have nearer := rank_step awaited done
        have bounded' := bounded_turn (turn_of_step awaited done) pos bounded
        exact conforms_follow allowed pos next out bounded'
      · exact .done _
  by_cases probing : stage.isProbing = true
  · rw [d.follow_of_isProbing probing]
    exact ((conforms_probe allowed.probes).onDrop (d.alike_dropAt stage)).bind fun _ => goesOn _ _
  · by_cases asking : stage.isAsking = true
    · rw [d.follow_of_isAsking asking]
      refine .await (fun c member => ?_) (d.alike_dropAt stage) fun _ _ => goesOn _ _
      obtain ⟨⟨slot, p, range⟩, asked, rfl⟩ := List.mem_map.1 member
      exact allowed.fetches p range (bounded.within pos (List.mem_of_mem_filter asked))
    · cases stage with
      | ended result =>
        rw [follow_ended]
        exact .done result
      | probing | probingAgain => exact absurd rfl probing
      | whole | filling => exact absurd rfl asking
termination_by d.rank stage
decreasing_by exact nearer

/-- A download that is in order keeps to terms under which it may ask all contacts about the file
and for its chunks, and break off where lists for all of them have no room. -/
theorem conforms_plan {terms : Terms}
    (allowed : ∀ t, d.request.validate t = .ok () → d.Allowed terms) : d.plan.Conforms terms := by
  refine .look fun site _ => ?_
  unfold start
  split
  · rw [follow_ended]
    exact .done _
  · rename_i valid
    exact conforms_follow (allowed site.files valid) (size_pos_of_validate valid) _ _ trivial

end Download
end LocalSwarm
