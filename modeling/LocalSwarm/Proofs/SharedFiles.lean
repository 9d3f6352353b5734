import LocalSwarm.Download.Request
import LocalSwarm.Files.Shared
import LocalSwarm.Proofs.PartFiles
import LocalSwarm.Proofs.Wire.Limits

/-! What is read of shared files: never more than is served at once, and of a file whose status was
told all of a range within it. What is told of them can be written. -/
namespace LocalSwarm.Files
open Wire (Plain)

theorem FileError.plain_message (e : FileError) : Plain e.message := by
  cases e <;> exact Wire.plain_of_all (by decide +kernel) (by decide +kernel)

/-- The times of all files have no more than sixteen bytes. -/
def Tree.Dated (t : Tree) : Prop :=
  ∀ path place f, t.lookup path = .ok (place, .file f) →
    f.modified.toNat < 0x100000000000000000000000000000000

namespace SharedFolders

variable {s : SharedFolders} {t : Tree} {query : FileQuery} {range : ByteRange}
  {status : FileStatus} {data : Bytes}

theorem read_eq_ok_iff : s.read t query range = .ok (status, data) ↔
    range.length ≤ servedLimit ∧ ∃ file?, s.locate t query = .ok (status, file?) ∧
      data = (file?.map fun f => slice f.content range).getD [] := by
  unfold read
  by_cases large : servedLimit < range.length
  · rw [if_pos large]
    exact ⟨nofun, fun ⟨small, _⟩ => absurd large (Nat.not_lt.2 small)⟩
  · rw [if_neg large]
    cases located : s.locate t query with
    | error e => exact ⟨nofun, fun ⟨_, _, found, _⟩ => nomatch found⟩
    | ok found =>
      obtain ⟨status', file?⟩ := found
      constructor
      · intro done
        obtain ⟨rfl, rfl⟩ := Prod.mk.inj (Except.ok.inj done)
        exact ⟨Nat.not_lt.1 large, file?, rfl, rfl⟩
      · rintro ⟨-, file?, found, rfl⟩
        obtain ⟨rfl, rfl⟩ := Prod.mk.inj (Except.ok.inj found)
        rfl

theorem length_slice_le (content : Bytes) (range : ByteRange) :
    (slice content range).length ≤ range.length := List.length_take_le ..

theorem length_read_le (read : s.read t query range = .ok (status, data)) :
    data.length ≤ servedLimit := by
  obtain ⟨small, file?, -, rfl⟩ := read_eq_ok_iff.1 read
  cases file? with
  | none => exact Nat.zero_le _
  | some f => exact Nat.le_trans (length_slice_le f.content range) small

theorem length_slice {content : Bytes} (inside : range.stop < content.length) :
    (slice content range).length = range.length := by
  have order := range.start_le_stop
  rw [slice, List.length_take, List.length_drop, ByteRange.length, ByteRange.size]
  omega

theorem exists_of_status (told : s.status t query = .ok status) :
    ∃ file?, s.locate t query = .ok (status, file?) := by
  cases located : s.locate t query with
  | error e =>
    rw [SharedFolders.status, located] at told
    cases told
  | ok found =>
    rw [SharedFolders.status, located] at told
    exact ⟨found.2, by rw [← Except.ok.inj told]⟩

/-- A file is told of by its length. -/
theorem size_of_locate {file? : Option File} (located : s.locate t query = .ok (status, file?))
    (present : status.fileFound = true) :
    ∃ f, file? = some f ∧ status.size = UInt64.ofNat f.content.length := by
  unfold locate at located
  split at located
  · cases located
    cases present
  · split at located
    · cases located
      cases present
    · split at located
      · cases located
        exact ⟨_, rfl, rfl⟩
      · rename_i p _
        cases located
        exact ⟨_, rfl, congrArg UInt64.ofNat p.length_content.symm⟩
      · cases located
        cases present
      · cases located
        cases present
      · cases located

theorem fits_of_locate {file? : Option File} (dated : t.Dated)
    (located : s.locate t query = .ok (status, file?)) : status.Fits := by
  unfold locate at located
  split at located
  · cases located
    exact Wire.plain_empty
  · split at located
    · cases located
      exact Wire.plain_empty
    · split at located
      · rename_i found
        cases located
        exact Wire.plain_decimal (dated _ _ _ found)
      · cases located
        exact Wire.plain_decimal (n := 0) (by decide)
      · cases located
        exact Wire.plain_empty
      · cases located
        exact Wire.plain_empty
      · cases located

/-- Of a shared copy every range is read, unless it is longer than what is served at once. -/
theorem read_of_status {size : UInt64} {version : String} (told : s.status t query = .ok status)
    (holds : DownloadRequest.qualifies size version status = true)
    (inside : range.stop < size.toNat) (small : range.length ≤ servedLimit) :
    ∃ data, s.read t query range = .ok (status, data) ∧
      DownloadRequest.isValidChunk size version range status data = true := by
  obtain ⟨file?, located⟩ := exists_of_status told
  have parts := holds
  simp only [DownloadRequest.qualifies, Bool.and_eq_true, decide_eq_true_eq] at parts
  obtain ⟨f, rfl, length⟩ := size_of_locate located parts.1.1.2
  have within : size.toNat ≤ f.content.length := by
    rw [← parts.1.2, length, UInt64.toNat_ofNat']
    exact Nat.mod_le _ _
  refine ⟨_, read_eq_ok_iff.2 ⟨small, _, located, rfl⟩, ?_⟩
  rw [DownloadRequest.isValidChunk, holds, Bool.true_and, decide_eq_true_eq]
  exact length_slice (Nat.lt_of_lt_of_le inside within)

end SharedFolders

namespace Provider

variable {p : Provider} {t : Tree} {query : FileQuery} {range : ByteRange} {status : FileStatus}
  {data : Bytes}

/-- No more bytes are read at once than are served. -/
theorem length_read_le (read : p.read t query range = .ok (status, data)) :
    data.length ≤ SharedFolders.servedLimit := by
  cases p with
  | nothing =>
    cases read
    exact Nat.zero_le _
  | folders shared => exact shared.length_read_le read

theorem fits_of_status (dated : t.Dated) (told : p.status t query = .ok status) : status.Fits := by
  cases p with
  | nothing =>
    cases told
    exact Wire.plain_empty
  | folders shared =>
    obtain ⟨file?, located⟩ := SharedFolders.exists_of_status told
    exact shared.fits_of_locate dated located

theorem fits_of_read (dated : t.Dated) (read : p.read t query range = .ok (status, data)) :
    status.Fits := by
  cases p with
  | nothing =>
    cases read
    exact Wire.plain_empty
  | folders shared =>
    obtain ⟨-, file?, located, -⟩ := SharedFolders.read_eq_ok_iff.1 read
    exact shared.fits_of_locate dated located

end Provider
end LocalSwarm.Files
