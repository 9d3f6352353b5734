import LocalSwarm.Proofs.Connections.Frames
import LocalSwarm.Proofs.Downloads.Conduct
import LocalSwarm.Proofs.SharedFiles
import LocalSwarm.Proofs.Wire.Sizes

/-! Whether peers serve the chunks that a download asks for. They serve ranges up to a limit, and a
download asks for no more at once than its own limit and the size of the file allow. Main statement:
`asked_chunks_are_served`. -/
namespace LocalSwarm

-- Comparing lengths symbol by symbol would write out all digits of a number.
attribute [local irreducible] Bytes.ofNat

namespace ByteRange

theorem size_splitChunk_le (r : ByteRange) (chunk : Nat) :
    (r.splitChunk chunk).1.size ≤ max chunk 1 := by
  unfold splitChunk
  split
  · simp only [size]
    omega
  · simp only [size]
    omega

theorem stop_splitChunk_le (r : ByteRange) (chunk : Nat) :
    (r.splitChunk chunk).1.stop ≤ r.stop := by
  unfold splitChunk
  split
  · exact Nat.le_of_lt ‹_›
  · exact Nat.le_refl _

end ByteRange

namespace DownloadRequest

variable {r : DownloadRequest} {t : Files.Tree}

theorem plain_of_isShortAscii {s : String} (short : isShortAscii s = true) : Wire.Plain s := by
  rw [isShortAscii, Bool.and_eq_true, decide_eq_true_eq] at short
  obtain ⟨ascii, fits⟩ := short
  have same : Wire.ofAscii (Wire.utf8 s) = s := by
    have bytes := Wire.utf8_ofAscii ascii
    rw [Wire.utf8_eq (Wire.ofAscii _), Wire.utf8_eq s] at bytes
    rw [Wire.utf8_eq s]
    exact String.toByteArray_inj.1 (ByteArray.ext (Array.toList_inj.1 bytes))
  exact ⟨same ▸ Wire.ascii_ofAscii ascii, fits⟩

/-- What a request in order asks peers about can be written. -/
theorem fits_of_validate (valid : r.validate t = .ok ()) : r.query.Fits := by
  obtain ⟨-, -, ascii, -⟩ := validate_eq_ok_iff.1 valid
  simp only [List.all_cons, List.all_nil, Bool.and_true, Bool.and_eq_true] at ascii
  obtain ⟨bucket, path, name, -⟩ := ascii
  exact ⟨plain_of_isShortAscii bucket, plain_of_isShortAscii path, plain_of_isShortAscii name⟩

end DownloadRequest

namespace Download

variable {d : Download} {online : List Peer → Prop} {t₀ t t' : Files.Tree} {h : List Happening}
  {rounds : List Round} {stage next : Stage}

/-- Only a file that is no longer than a chunk is asked for as a whole. -/
def Small (d : Download) : Stage → Prop
  | .whole .. => d.size ≤ d.chunkSize
  | _ => True

theorem small_settled {part : Files.Location} {round : Nat} {fill : Fill}
    (settled : Settled d t part round fill t' next) : d.Small next := by
  cases settled <;> exact trivial

theorem Course.small (course : Course d online t₀ h rounds t stage) : d.Small stage := by
  induction course with
  | start => exact trivial
  | created _ _ _ _ _ ih => exact ih
  | elapsed _ _ _ _ ih => exact ih
  | disrupted _ _ _ ih => exact ih
  | checked _ _ _ _ _ ih => exact ih
  | probed _ probing _ _ _ step _ =>
    cases turn_of_step (awaits_probed probing _) step with
    | asksWhole small => exact small
    | begins _ _ _ _ _ settled => exact small_settled settled
    | resumes _ _ settled => exact small_settled settled
    | _ => exact trivial
  | chunk outcome _ asked step ih =>
    cases turn_of_step (awaits_chunk asked _) step with
    | asksNext => exact ih
    | delivered _ _ _ settled => exact small_settled settled
    | abandoned _ _ _ settled => exact small_settled settled
    | refused _ _ settled => exact small_settled settled
    | _ => exact trivial

/-- A range that a download may ask for: no longer than a chunk, and within the file. -/
structure Within (d : Download) (range : ByteRange) : Prop where
  short : range.size ≤ d.chunkSize
  inside : range.stop < d.size

theorem within_of_asked (pos : 0 < d.size) (small : d.Small stage)
    (inside : ∀ part round fill, stage = .filling part round fill → ∀ r ∈ fill.left, r.stop < d.size)
    {slot : Nat} {p : Peer} {range : ByteRange} (asked : (slot, p, range) ∈ d.asked stage) :
    d.Within range := by
  cases stage with
  | whole contact others =>
    obtain ⟨-, rfl⟩ := all_of_asked asked
    have whole : d.all.size = d.size := Nat.sub_add_cancel pos
    exact ⟨whole.trans_le small, Nat.sub_lt pos Nat.one_pos⟩
  | filling part round fill =>
    obtain ⟨⟨number, x⟩, active, same⟩ := List.mem_map.1 asked
    cases same
    refine ⟨(x.piece.size_splitChunk_le d.chunkSize).trans (Nat.max_le.2 ⟨Nat.le_refl _, ?_⟩), ?_⟩
    · exact Nat.le_max_right ..
    · have left : x.piece ∈ fill.left :=
        List.mem_append_right _ (List.mem_flatMap.2 ⟨(slot, x), List.mem_append_left _ active,
          List.mem_cons_self⟩)
      exact (x.piece.stop_splitChunk_le d.chunkSize).trans_lt (inside part round fill rfl _ left)
  | probing => cases asked
  | probingAgain => cases asked
  | ended => cases asked

theorem Course.within (course : Course d online t₀ h rounds t stage) {slot : Nat} {p : Peer}
    {range : ByteRange} (asked : (slot, p, range) ∈ d.asked stage) : d.Within range := by
  refine within_of_asked (size_pos_of_validate course.valid) course.small ?_ asked
  rintro part round fill rfl r left
  exact course.accounted.account.sparse.inside r (List.mem_append_right _ left)

theorem mem_of_chunk {x y : Happening} (member : x ∈ h ++ [y]) (chunk : x.isChunk = true)
    (other : y.isChunk = false) : x ∈ h := by
  rcases List.mem_append.1 member with old | new
  · exact old
  · rw [List.mem_singleton.1 new, other] at chunk
    cases chunk

/-- So are all ranges that were asked for. -/
theorem Course.asked_within (course : Course d online t₀ h rounds t stage) {slot : Nat}
    {callee : Callee} {file : FileQuery} {range : ByteRange} {outcome : Outcome}
    (asked : .answered slot ⟨callee, .download file range⟩ outcome ∈ h) :
    file = d.request.query ∧ d.Within range := by
  induction course with
  | start => cases asked
  | created _ _ _ _ _ ih => exact ih (mem_of_chunk asked rfl rfl)
  | elapsed _ _ _ _ ih => exact ih (mem_of_chunk asked rfl rfl)
  | disrupted _ _ _ ih => exact ih (mem_of_chunk asked rfl rfl)
  | checked _ _ _ _ _ ih => exact ih (mem_of_chunk asked rfl rfl)
  | probed _ _ _ _ _ _ ih => exact ih asked
  | chunk _ course out _ ih =>
    rcases List.mem_append.1 asked with old | new
    · exact ih old
    · cases List.mem_singleton.1 new
      exact ⟨rfl, course.within out⟩

/-- What a download asks peers for can be written, and read by them. -/
theorem chunk_travels (range : ByteRange) {sender : Sender} (k : UInt32)
    (fits : d.request.query.Fits) (plain : Wire.Plain sender.machine)
    (small : range.size ≤ Files.SharedFolders.servedLimit) :
    (Message.mk k sender (.request (.download d.request.query range))).Travels := by
  refine ⟨⟨plain, fits, ?_⟩, ?_⟩
  · have limits : Files.SharedFolders.servedLimit < Frame.limit := by decide
    unfold ByteRange.size at small
    omega
  · have machine := Wire.length_text_le sender.machine
    have bucket := Wire.length_text_le d.request.query.bucket
    have folder := Wire.length_text_le d.request.query.folder
    have name := Wire.length_text_le d.request.query.name
    have limits : 44 + 4 * Wire.textLimit ≤ Frame.limit := by decide
    rw [Message.length_encode]
    simp only [Wire.body, Wire.request, Wire.fileQuery, List.length_append, Bytes.length_ofNat]
    omega

/-- Whatever a download asks for is read by peers and served from a copy that they share as it was
asked for, and accepted, as long as no more is asked for at once than they serve: be it that the
download asks for short chunks, or that the file is short. -/
theorem asked_chunks_are_served {s : Site} {c' : Situation}
    {e : Except Cut (Except DownloadError String)} (run : Run d.plan ⟨[], s⟩ h c' e)
    (served : min d.chunkSize d.size ≤ Files.SharedFolders.servedLimit) {slot : Nat}
    {callee : Callee} {file : FileQuery} {range : ByteRange} {outcome : Outcome}
    (asked : .answered slot ⟨callee, .download file range⟩ outcome ∈ h) (k : UInt32)
    (sender : Sender) (plain : Wire.Plain sender.machine) (shared : Files.SharedFolders)
    (tree : Files.Tree) (status : FileStatus) (told : shared.status tree file = .ok status)
    (holds : DownloadRequest.qualifies d.request.size d.request.version status = true) :
    let m : Message := ⟨k, sender, .request (.download file range)⟩
    Frame.write m.encode = .ok m.frame ∧ Message.decode m.encode = .ok m ∧
      ∃ data, shared.read tree file range = .ok (status, data) ∧
        DownloadRequest.isValidChunk d.request.size d.request.version range status data = true := by
  have course : ∃ rounds t stage, Course d (fun _ => True) s.files h rounds t stage := by
    rcases run_plan (fun _ => True) trivial (fun _ _ _ => trivial) run with
      ⟨-, -, rfl, -⟩ | ⟨-, conducted⟩
    · cases asked
    · exact conducted.course
  obtain ⟨rounds, t, stage, course⟩ := course
  obtain ⟨rfl, short, inside⟩ := course.asked_within asked
  have small : range.size ≤ Files.SharedFolders.servedLimit := by
    have order := range.start_le_stop
    unfold ByteRange.size at short ⊢
    omega
  have fits := DownloadRequest.fits_of_validate course.valid
  have travels := chunk_travels range k fits plain small
  refine ⟨travels.write, Message.decode_encode travels.fits, ?_⟩
  exact Files.SharedFolders.read_of_status told holds inside ((Nat.min_le_left ..).trans small)

/-! A file is fetched as a whole from a peer that shares it. -/

namespace Sample

/-- The version of the shared file is when it was last changed. -/
def copy (size : UInt64) : Download :=
  ⟨⟨"out", "b", "", "f", size, "5"⟩, size.toNat, 2, 2, 0⟩

def shared : Files.SharedFolders := ⟨[("b", "shared")]⟩

/-- The tree of the peer that shares the file. -/
def host (content : Bytes) : Files.Tree :=
  { entries := [(["shared"], .folder), (["shared", "f"], .file ⟨content, 5, false⟩)] }

def told (size : UInt64) : FileStatus := ⟨true, true, size, "5"⟩

theorem status_host (content : Bytes) :
    shared.status (host content) ⟨"b", "", "f"⟩ = .ok (told (UInt64.ofNat content.length)) := by
  have path : Files.SharedFolders.resolve "shared" ⟨"b", "", "f"⟩ = some "shared/f" := by
    decide +kernel
  have found : (host content).lookup "shared/f" =
      .ok (["shared", "f"], .file ⟨content, 5, false⟩) := rfl
  have bucket : shared.roots.lookup "b" = some "shared" := rfl
  have version : toString (5 : Int).toNat = "5" := by decide +kernel
  rw [Files.SharedFolders.status, Files.SharedFolders.locate, bucket]
  simp only [path, found, Files.SharedFolders.statusOf, Files.SharedFolders.versionOf, version]
  rfl

/-- Of the two peers one has the file, and is asked for it. -/
def fetching (size : UInt64) (outcome : Outcome) : List Happening :=
  [(copy size).checkAnswer 0 idle (.ok ⟨idle, .checkFile .missing⟩),
    (copy size).checkAnswer 1 honest (.ok ⟨honest, .checkFile (told size)⟩),
    (copy size).chunkAnswer 0 honest (copy size).all outcome]

theorem run_copy : ∃ c', Run (copy 2).plan ⟨[], site⟩
    (fetching 2 (.ok ⟨honest, .download (told 2) [7, 9]⟩)) c' (.ok (.ok "out/f")) :=
  run_of_replay (by decide +kernel)

theorem short_copy_is_served :
    ∃ c', Run (copy 2).plan ⟨[], site⟩
        (fetching 2 (.ok ⟨honest, .download (told 2) [7, 9]⟩)) c' (.ok (.ok "out/f")) ∧
      min (copy 2).chunkSize (copy 2).size ≤ Files.SharedFolders.servedLimit ∧
      ∃ data, shared.read (host [7, 9]) (copy 2).request.query (copy 2).all = .ok (told 2, data) ∧
        DownloadRequest.isValidChunk 2 "5" (copy 2).all (told 2) data = true := by
  obtain ⟨c', run⟩ := run_copy
  have small : min (copy 2).chunkSize (copy 2).size ≤ Files.SharedFolders.servedLimit := by decide
  have asked : .answered 0 ⟨.contact honest, .download (copy 2).request.query (copy 2).all⟩
      (.ok ⟨honest, .download (told 2) [7, 9]⟩) ∈
        fetching 2 (.ok ⟨honest, .download (told 2) [7, 9]⟩) :=
    List.mem_cons_of_mem _ (List.mem_cons_of_mem _ List.mem_cons_self)
  obtain ⟨-, -, served⟩ := asked_chunks_are_served run small asked 7 ⟨⟨0⟩, 0, "studio"⟩
    Wire.plain_studio shared (host [7, 9]) (told 2) (status_host [7, 9]) (by decide +kernel)
  exact ⟨c', run, small, served⟩

/-- A file of one byte more than is served at once. -/
def long : UInt64 := 16777217

theorem long_copy_is_refused :
    ∃ c', Run (copy long).plan ⟨[], site⟩
        (fetching long (.error (.remote Files.FileError.rangeTooLarge.message))) c'
        (.ok (.error (.incomplete 16777217))) ∧
      shared.status (host (List.replicate 16777217 1)) (copy long).request.query =
        .ok (told long) ∧
      DownloadRequest.qualifies long "5" (told long) = true ∧
      shared.read (host (List.replicate 16777217 1)) (copy long).request.query (copy long).all =
        .error .rangeTooLarge := by
  have run : ∃ c', Run (copy long).plan ⟨[], site⟩
      (fetching long (.error (.remote Files.FileError.rangeTooLarge.message))) c'
      (.ok (.error (.incomplete 16777217))) := run_of_replay (by decide +kernel)
  obtain ⟨c', run⟩ := run
  have shares := status_host (List.replicate 16777217 1)
  rw [List.length_replicate] at shares
  have large : Files.SharedFolders.servedLimit < (copy long).all.length := by decide +kernel
  refine ⟨c', run, shares, by decide +kernel, ?_⟩
  rw [Files.SharedFolders.read, if_pos large]
  rfl

end Sample
end Download
end LocalSwarm
