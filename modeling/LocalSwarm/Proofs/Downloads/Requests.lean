import LocalSwarm.Download.Request

/-! Requests for downloads that are in order. -/
namespace LocalSwarm.DownloadRequest

variable {r : DownloadRequest} {t : Files.Tree}

theorem validate_eq_ok_iff : r.validate t = .ok () ↔
    r.size ≠ 0 ∧ r.version ≠ "" ∧
      List.all [r.bucket, r.path, r.name, r.version] isShortAscii = true ∧
      Files.Path.isPlain r.name = true ∧ t.isFolder r.folder = true ∧
      (t.lookup r.destination).isOk = false := by
  unfold validate
  by_cases size : r.size = 0
  · rw [if_pos size]
    exact ⟨nofun, fun order => absurd size order.1⟩
  by_cases version : r.version = ""
  · rw [if_neg size, if_pos version]
    exact ⟨nofun, fun order => absurd version order.2.1⟩
  rw [if_neg size, if_neg version]
  cases List.all [r.bucket, r.path, r.name, r.version] isShortAscii <;>
    cases Files.Path.isPlain r.name <;> cases t.isFolder r.folder <;>
    cases t.lookup r.destination <;> simp [size, version, Except.isOk, Except.toBool]

theorem isPlain_of_validate (valid : r.validate t = .ok ()) : Files.Path.isPlain r.name = true :=
  (validate_eq_ok_iff.1 valid).2.2.2.1

end LocalSwarm.DownloadRequest
