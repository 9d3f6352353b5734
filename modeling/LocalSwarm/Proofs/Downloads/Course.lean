import LocalSwarm.Proofs.Downloads.Requests
import LocalSwarm.Proofs.Downloads.Steps
import LocalSwarm.Proofs.Probes
import LocalSwarm.Proofs.Transfers

/-! Courses of downloads: what has happened, the rounds of transfers that have begun, the tree and
the stage. Peers answer as they like and in any order, others make entries of their own, and the disk
refuses what it likes. All that is said of downloads is an invariant of courses; that the plan of a
download keeps to them is shown apart from that. -/
namespace LocalSwarm

namespace Happening

/-- An answer to a request for the status of a file. -/
def isCheck : Happening → Bool
  | answered _ ⟨_, .checkFile _⟩ _ => true
  | _ => false

/-- An answer to a request for a chunk of a file. -/
def isChunk : Happening → Bool
  | answered _ ⟨_, .download _ _⟩ _ => true
  | _ => false

end Happening

namespace Download

def checkAnswer (d : Download) (slot : Nat) (p : Peer) (outcome : Outcome) : Happening :=
  .answered slot ⟨.contact p, .checkFile d.request.query⟩ outcome

def chunkAnswer (d : Download) (slot : Nat) (p : Peer) (range : ByteRange) (outcome : Outcome) :
    Happening :=
  .answered slot ⟨.contact p, .download d.request.query range⟩ outcome

/-- The chunk that an answer brings, if it is accepted. -/
def delivery? (d : Download) : Happening → Option (ByteRange × Bytes)
  | .answered _ ⟨_, .download _ range⟩ outcome =>
    (d.accepted range outcome.chunk?).map fun data => (range, data)
  | _ => none

/-- The chunks that were accepted, first one first. -/
def deliveries (d : Download) (h : List Happening) : List (ByteRange × Bytes) :=
  h.filterMap d.delivery?

def written (d : Download) (h : List Happening) : List ByteRange := (d.deliveries h).map (·.1)

/-- The file that consists of the accepted chunks. -/
def assembled (d : Download) (h : List Happening) : Files.Part :=
  ⟨d.size, ((d.deliveries h).map fun chunk => (chunk.1.start, chunk.2)).reverse⟩

/-- Whether the contact has said in the most recent probe that it holds the wanted copy. All answers
to that probe are in `checks`, and since then there have been answers to requests for chunks only. -/
def Qualified (d : Download) (h : List Happening) (p : Peer) : Prop :=
  ∃ older checks chunks, h = older ++ checks ++ chunks ∧
    (∀ x ∈ checks, x.isChunk = false) ∧ (∀ x ∈ chunks, x.isCheck = false) ∧
    ∃ slot outcome, d.checkAnswer slot p outcome ∈ checks ∧
      Outcome.qualifies d.request.size d.request.version outcome = true

/-- The ranges that a probe is followed by a round of transfers for. -/
def toPart (d : Download) : Stage → List ByteRange
  | .probing => [d.all]
  | .probingAgain _ _ pending => pending
  | _ => []

/-- The beginning of a round of transfers: what had happened and what was missing. -/
structure Round where
  past : List Happening
  pending : List ByteRange

/-- The round that begins when a probe leads from one stage to another. -/
def begun (d : Download) (past : List Happening) (stage next : Stage) : List Round :=
  match next with
  | .filling .. => [⟨past, d.toPart stage⟩]
  | _ => []

/-- A course of a download from a tree on. What `online` says holds of the contacts that are asked by
any probe. -/
inductive Course (d : Download) (online : List Peer → Prop) (t₀ : Files.Tree) :
    List Happening → List Round → Files.Tree → Stage → Prop where
  | start : d.request.validate t₀ = .ok () → Course d online t₀ [] [] t₀ .probing
  | created {h : List Happening} {rounds : List Round} {t : Files.Tree} {stage : Stage}
      {place : Files.Location} (entry : Files.Entry) :
      Course d online t₀ h rounds t stage → stage.isOpen = true →
      t.entry? place = none → t.entry? place.dropLast = some .folder →
      Course d online t₀ (h ++ [.created place entry]) rounds (t.set place entry) stage
  | elapsed {h : List Happening} {rounds : List Round} {t : Files.Tree} {stage : Stage}
      (node : Node) (now : Moment) : Course d online t₀ h rounds t stage → stage.isOpen = true →
      Course d online t₀ (h ++ [.elapsed node now]) rounds t stage
  | disrupted {h : List Happening} {rounds : List Round} {t : Files.Tree} {stage : Stage}
      (disk : Files.Disk) : Course d online t₀ h rounds t stage → stage.isOpen = true →
      Course d online t₀ (h ++ [.disrupted disk]) rounds { t with disk } stage
  | checked {h : List Happening} {rounds : List Round} {t : Files.Tree} {stage : Stage}
      (slot : Nat) (p : Peer) (outcome : Outcome) :
      Course d online t₀ h rounds t stage → stage.isProbing = true →
      Course d online t₀ (h ++ [d.checkAnswer slot p outcome]) rounds t stage
  | probed {older checks : List Happening} {rounds : List Round} {t t' : Files.Tree}
      {stage next : Stage} {candidates contacts : List Peer} :
      Course d online t₀ (older ++ checks) rounds t stage → stage.isProbing = true →
      (∀ x ∈ checks, x.isChunk = false) → online candidates →
      Probed d.request.query d.request.size d.request.version candidates checks contacts →
      d.step t stage (.probed contacts) = .ok (t', next) →
      Course d online t₀ (older ++ checks) (rounds ++ d.begun (older ++ checks) stage next) t' next
  | chunk {h : List Happening} {rounds : List Round} {t t' : Files.Tree} {stage next : Stage}
      {slot : Nat} {p : Peer} {range : ByteRange} (outcome : Outcome) :
      Course d online t₀ h rounds t stage → (slot, p, range) ∈ d.asked stage →
      d.step t stage (.chunk slot outcome.chunk?) = .ok (t', next) →
      Course d online t₀ (h ++ [d.chunkAnswer slot p range outcome]) rounds t' next

theorem awaits_probed {stage : Stage} (h : stage.isProbing = true) (contacts : List Peer) :
    stage.awaits (.probed contacts) = true := by
  cases stage <;> first | rfl | cases h

theorem awaits_chunk {d : Download} {stage : Stage} {slot : Nat} {p : Peer} {range : ByteRange}
    (h : (slot, p, range) ∈ d.asked stage) (answer : Option (FileStatus × Bytes)) :
    stage.awaits (.chunk slot answer) = true := by
  cases stage with
  | whole => rfl
  | filling part round fill =>
    obtain ⟨⟨number, x⟩, active, same⟩ := List.mem_map.1 h
    cases same
    change (fill.at? slot).isSome = true
    rw [Option.isSome_iff_ne_none, Fill.at?, ne_eq, List.lookup_eq_none_iff]
    intro absent
    simpa using absent _ active
  | probing => cases h
  | probingAgain => cases h
  | ended => cases h

theorem all_of_asked {d : Download} {contact : Peer} {others : List Peer} {slot : Nat} {p : Peer}
    {range : ByteRange} (h : (slot, p, range) ∈ d.asked (.whole contact others)) :
    slot = 0 ∧ range = d.all := by
  cases List.mem_singleton.1 h
  exact ⟨rfl, rfl⟩

theorem at?_of_asked {d : Download} {part : Files.Location} {round : Nat} {fill : Fill}
    (orderly : fill.Orderly) {slot : Nat} {p : Peer} {range : ByteRange} {x : Transfer}
    (h : (slot, p, range) ∈ d.asked (.filling part round fill)) (found : fill.at? slot = some x) :
    p = x.contact ∧ range = x.chunk d.chunkSize := by
  obtain ⟨⟨number, y⟩, active, same⟩ := List.mem_map.1 h
  cases same
  have listed : (slot, y) ∈ fill.transfers := List.mem_append_left _ active
  rcases List.mem_cons.1 ((Fill.transfers_perm found).mem_iff.1 listed) with same | other
  · cases same
    exact ⟨rfl, rfl⟩
  · exact absurd (List.mem_map_of_mem (f := Prod.fst) other) (orderly.cons_nodup found).notMem

theorem deliveries_append (d : Download) (h k : List Happening) :
    d.deliveries (h ++ k) = d.deliveries h ++ d.deliveries k := List.filterMap_append

@[simp] theorem deliveries_created (d : Download) (h : List Happening) (place : Files.Location)
    (entry : Files.Entry) : d.deliveries (h ++ [.created place entry]) = d.deliveries h := by
  rw [deliveries_append]
  exact List.append_nil _

@[simp] theorem deliveries_elapsed (d : Download) (h : List Happening) (node : Node)
    (now : Moment) : d.deliveries (h ++ [.elapsed node now]) = d.deliveries h := by
  rw [deliveries_append]
  exact List.append_nil _

@[simp] theorem deliveries_disrupted (d : Download) (h : List Happening) (disk : Files.Disk) :
    d.deliveries (h ++ [.disrupted disk]) = d.deliveries h := by
  rw [deliveries_append]
  exact List.append_nil _

@[simp] theorem deliveries_checkAnswer (d : Download) (h : List Happening) (slot : Nat) (p : Peer)
    (outcome : Outcome) :
    d.deliveries (h ++ [d.checkAnswer slot p outcome]) = d.deliveries h := by
  rw [deliveries_append]
  exact List.append_nil _

theorem deliveries_accepted {d : Download} {range : ByteRange} {outcome : Outcome} {data : Bytes}
    (taken : d.accepted range outcome.chunk? = some data) (h : List Happening) (slot : Nat)
    (p : Peer) :
    d.deliveries (h ++ [d.chunkAnswer slot p range outcome]) = d.deliveries h ++ [(range, data)] := by
  rw [deliveries_append]
  congr 1
  simp only [deliveries, chunkAnswer, List.filterMap_cons, delivery?, taken, Option.map_some,
    List.filterMap_nil]

theorem deliveries_refused {d : Download} {range : ByteRange} {outcome : Outcome}
    (refused : d.accepted range outcome.chunk? = none) (h : List Happening) (slot : Nat) (p : Peer) :
    d.deliveries (h ++ [d.chunkAnswer slot p range outcome]) = d.deliveries h := by
  rw [deliveries_append]
  simp only [deliveries, chunkAnswer, List.filterMap_cons, delivery?, refused, Option.map_none,
    List.filterMap_nil, List.append_nil]

theorem written_of_deliveries {d : Download} {h k : List Happening}
    (same : d.deliveries k = d.deliveries h) : d.written k = d.written h :=
  congrArg (List.map Prod.fst) same

theorem written_accepted {d : Download} {range : ByteRange} {outcome : Outcome} {data : Bytes}
    (taken : d.accepted range outcome.chunk? = some data) (h : List Happening) (slot : Nat)
    (p : Peer) :
    d.written (h ++ [d.chunkAnswer slot p range outcome]) = d.written h ++ [range] := by
  rw [written, deliveries_accepted taken, List.map_append]
  rfl

theorem length_of_accepted {d : Download} {range : ByteRange}
    {answer : Option (FileStatus × Bytes)} {data : Bytes}
    (taken : d.accepted range answer = some data) :
    ∃ status, answer = some (status, data) ∧
      DownloadRequest.qualifies d.request.size d.request.version status = true ∧
      data.length = range.length := by
  unfold accepted at taken
  split at taken
  · next status bytes =>
    split at taken
    · next valid =>
      cases taken
      rw [DownloadRequest.isValidChunk, Bool.and_eq_true, decide_eq_true_eq] at valid
      exact ⟨status, rfl, valid.1, valid.2⟩
    · cases taken
  · cases taken

/-- An accepted chunk is as long as its range. -/
theorem length_of_delivered {d : Download} {h : List Happening} {range : ByteRange} {data : Bytes}
    (member : (range, data) ∈ d.deliveries h) : data.length = range.length := by
  obtain ⟨x, -, delivers⟩ := List.mem_filterMap.1 member
  unfold delivery? at delivers
  split at delivers
  · obtain ⟨data', taken, same⟩ := Option.map_eq_some_iff.1 delivers
    cases same
    obtain ⟨status, -, -, length⟩ := length_of_accepted taken
    exact length
  · cases delivers

theorem size_pos_of_validate {d : Download} {t : Files.Tree} (h : d.request.validate t = .ok ()) :
    0 < d.size :=
  Nat.pos_of_ne_zero fun zero =>
    (DownloadRequest.validate_eq_ok_iff.1 h).1 (UInt64.toNat_inj.1 zero)

theorem Course.valid {d : Download} {online : List Peer → Prop} {t₀ t : Files.Tree}
    {h : List Happening} {rounds : List Round} {stage : Stage}
    (course : Course d online t₀ h rounds t stage) : d.request.validate t₀ = .ok () := by
  induction course with
  | start valid => exact valid
  | created _ _ _ _ _ ih => exact ih
  | elapsed _ _ _ _ ih => exact ih
  | disrupted _ _ _ ih => exact ih
  | checked _ _ _ _ _ ih => exact ih
  | probed _ _ _ _ _ _ ih => exact ih
  | chunk _ _ _ _ ih => exact ih

theorem Course.disk_eq {d : Download} {online : List Peer → Prop} {t₀ t : Files.Tree}
    {h : List Happening} {rounds : List Round} {stage : Stage}
    (course : Course d online t₀ h rounds t stage) : t.disk = Happening.disk t₀.disk h := by
  induction course with
  | start => rfl
  | created _ _ _ _ _ ih | elapsed _ _ _ _ ih | checked _ _ _ _ _ ih =>
    rw [Happening.disk_append]
    exact ih
  | disrupted =>
    rw [Happening.disk_append]
    rfl
  | probed _ probing _ _ _ step ih =>
    exact (turn_of_step (awaits_probed probing _) step).disk_eq.trans ih
  | chunk _ _ asked step ih =>
    rw [Happening.disk_append, ← ih]
    exact (turn_of_step (awaits_chunk asked _) step).disk_eq

theorem Settled.goesOn_eq {d : Download} {t t' : Files.Tree} {part part' : Files.Location}
    {round round' : Nat} {fill fill' : Fill}
    (settled : Settled d t part round fill t' (.filling part' round' fill')) : fill' = fill := by
  cases settled
  rfl

/-- No round has failed that goes on while everything can be written. -/
theorem Course.unfailed {d : Download} {online : List Peer → Prop} {t₀ t : Files.Tree}
    {h : List Happening} {rounds : List Round} {stage : Stage}
    (course : Course d online t₀ h rounds t stage)
    (writes : Happening.Always (·.write = none) t₀.disk h) {part : Files.Location} {round : Nat}
    {fill : Fill} (filling : stage = .filling part round fill) : fill.failed = none := by
  induction course generalizing part round fill with
  | start => cases filling
  | created _ _ _ _ _ ih => exact ih writes.of_append filling
  | elapsed _ _ _ _ ih => exact ih writes.of_append filling
  | disrupted _ _ _ ih => exact ih writes.of_append filling
  | checked _ _ _ _ _ ih => exact ih writes.of_append filling
  | probed _ probing _ _ _ step =>
    subst filling
    cases turn_of_step (awaits_probed probing _) step with
    | begins _ _ _ _ _ settled => exact settled.goesOn_eq ▸ rfl
    | resumes _ _ settled => exact settled.goesOn_eq ▸ rfl
  | chunk _ course asked step ih =>
    subst filling
    cases turn_of_step (awaits_chunk asked _) step with
    | delivered _ _ _ settled =>
      rw [settled.goesOn_eq, Fill.failed_deliver]
      exact ih writes.of_append rfl
    | abandoned _ _ refused =>
      rw [course.disk_eq, writes.of_append.disk] at refused
      cases refused
    | refused _ _ settled =>
      rw [settled.goesOn_eq, Fill.failed_refuse]
      exact ih writes.of_append rfl

/-- A round has work for some contact, as something is missing. -/
theorem settled_start {d : Download} {t t' : Files.Tree} {part : Files.Location} {round : Nat}
    {pending : List ByteRange} {contacts : List Peer} {pieces : List (List ByteRange)}
    {next : Stage} (some : pending ≠ []) (present : contacts ≠ [])
    (parted : Partition.partition pending contacts.length d.chunkSize = .ok pieces)
    (settled : Settled d t part round (Fill.start contacts pieces d.width) t' next) :
    t' = t ∧ next = .filling part round (Fill.start contacts pieces d.width) ∧
      ∀ o, ByteRange.cover (Fill.start contacts pieces d.width).left o =
        ByteRange.cover pending o := by
  obtain ⟨length, same⟩ := Partition.cover_partition (List.length_pos_of_ne_nil present) parted
  have left : ∀ o, ByteRange.cover (Fill.start contacts pieces d.width).left o =
      ByteRange.cover pending o := fun o =>
    (Fill.cover_left_start (Nat.le_of_eq length) d.width o).trans (same o)
  have busy : (Fill.start contacts pieces d.width).isOver ≠ true := by
    intro ends
    obtain ⟨r, member⟩ := List.exists_mem_of_ne_nil pending some
    have held : 0 < ByteRange.cover pending r.start :=
      ByteRange.cover_pos_iff.2 ⟨r, member, Nat.le_refl _, r.start_le_stop⟩
    rw [← left, Fill.left_of_isOver ends] at held
    cases held
  cases settled with
  | goesOn _ => exact ⟨rfl, rfl, left⟩
  | failed ends => exact absurd ends busy
  | saved ends => exact absurd ends busy
  | unsaved ends => exact absurd ends busy
  | givenUp ends => exact absurd ends busy
  | again ends => exact absurd ends busy

end Download
end LocalSwarm
