import LocalSwarm.Proofs.Downloads.Conduct
import LocalSwarm.Proofs.PartFiles
import LocalSwarm.Proofs.Trees

/-! What a download does to the tree. While it is under way the tree is that of the others, but for
at most one part file that holds the accepted chunks. When it is over, nothing is left of it but the
file that it has saved, which stands where nothing was. -/
namespace LocalSwarm
open Files (Tree Location Part)

namespace Download

/-- A tree without the download: what was there at first and what others have made since, on the disk
as it has become. -/
def withoutUs (t₀ : Tree) (h : List Happening) : Tree :=
  ⟨t₀.entries ++ Happening.creations h, Happening.disk t₀.disk h⟩

theorem withoutUs_nil (t₀ : Tree) : withoutUs t₀ [] = t₀ := Tree.ext (List.append_nil _) rfl

/-- An answer changes nothing, and neither does the passing of time. -/
theorem withoutUs_idle (t₀ : Tree) (h : List Happening) {x : Happening}
    (none : Happening.creations [x] = []) (same : ∀ disk, Happening.disk disk [x] = disk) :
    withoutUs t₀ (h ++ [x]) = withoutUs t₀ h := by
  rw [withoutUs, Happening.creations_append, none, List.append_nil, Happening.disk_append, same,
    withoutUs]

theorem withoutUs_answered (t₀ : Tree) (h : List Happening) (slot : Nat) (call : Call)
    (outcome : Outcome) : withoutUs t₀ (h ++ [.answered slot call outcome]) = withoutUs t₀ h :=
  withoutUs_idle t₀ h rfl fun _ => rfl

theorem withoutUs_elapsed (t₀ : Tree) (h : List Happening) (node : Node) (now : Moment) :
    withoutUs t₀ (h ++ [.elapsed node now]) = withoutUs t₀ h :=
  withoutUs_idle t₀ h rfl fun _ => rfl

theorem withoutUs_created {t₀ : Tree} {h : List Happening} {place : Location}
    (vacant : Tree.entry? (withoutUs t₀ h) place = none) (entry : Files.Entry) :
    withoutUs t₀ (h ++ [.created place entry]) = (withoutUs t₀ h).set place entry := by
  have made := Tree.entries_set vacant entry
  rw [withoutUs, Happening.creations_append, ← List.append_assoc, Happening.disk_append]
  exact Tree.ext made.symm rfl

theorem withoutUs_disrupted (t₀ : Tree) (h : List Happening) (disk : Files.Disk) :
    withoutUs t₀ (h ++ [.disrupted disk]) = { withoutUs t₀ h with disk } := by
  have none : Happening.creations [.disrupted disk] = [] := rfl
  rw [withoutUs, Happening.creations_append, none, List.append_nil, Happening.disk_append]
  rfl

theorem assembled_of_deliveries {d : Download} {h k : List Happening}
    (same : d.deliveries k = d.deliveries h) : d.assembled k = d.assembled h := by
  rw [assembled, same, assembled]

theorem assembled_accepted {d : Download} {range : ByteRange} {outcome : Outcome} {data : Bytes}
    (taken : d.accepted range outcome.chunk? = some data) (h : List Happening) (slot : Nat)
    (p : Peer) :
    d.assembled (h ++ [d.chunkAnswer slot p range outcome]) =
      (d.assembled h).write range.start data := by
  rw [assembled, deliveries_accepted taken, List.map_append, List.reverse_append]
  rfl

theorem assembled_of_written {d : Download} {h : List Happening} (none : d.written h = []) :
    d.assembled h = .blank d.size := by
  rw [assembled, List.map_eq_nil_iff.1 none]
  rfl

/-- An offset has been written into the part file as often as accepted chunks hold it. -/
theorem times_assembled {d : Download} {h : List Happening} (sparse : Sparse d.size (d.written h))
    (o : Nat) : (d.assembled h).times o = ByteRange.cover (d.written h) o := by
  have low : d.size ≤ ByteRange.limit := Nat.le_of_lt_succ d.request.size.toNat_lt
  rw [Part.times, assembled, List.countP_reverse, List.countP_map, ByteRange.cover, written,
    List.countP_map]
  refine List.countP_congr fun chunk member => ?_
  have inside := sparse.inside chunk.1 (List.mem_map_of_mem (f := Prod.fst) member)
  have length : chunk.2.length = chunk.1.stop - chunk.1.start + 1 := by
    rw [length_of_delivered member, ByteRange.length, ByteRange.size]
    omega
  have := chunk.1.start_le_stop
  simp only [Function.comp_apply, Part.byteAt_isSome_iff, ByteRange.holds_iff, length]
  omega

/-- The file that is saved holds the given bytes and can be changed, where nothing was, at the
destination. -/
structure Saved (d : Download) (others : Tree) (content : Bytes) (t : Tree) (place : Location)
    (file : Files.File) : Prop where
  vacant : others.entry? place = none
  within : others.entry? place.dropLast = some .folder
  holds : file.content = content
  modified : file.modified = 0
  writable : file.readOnly = false
  added : t = others.set place (.file file)
  found : t.lookup d.request.destination = .ok (place, .file file)

/-- It is as a download leaves it. -/
theorem Saved.entry_eq {d : Download} {others t : Tree} {content : Bytes} {place : Location}
    {file : Files.File} (saved : Saved d others content t place file) :
    Files.Entry.file file = Tree.finished content := by
  obtain ⟨-, -, rfl, stamped, writable, -, -⟩ := saved
  obtain ⟨content, modified, readOnly⟩ := file
  cases stamped
  cases writable
  rfl

/-- What becomes of the tree of the others, up to a stage at which the accepted chunks make a part.
The part file holds just them, unless one could not be written. -/
def Kept (d : Download) (others : Tree) (p : Part) (t : Tree) : Stage → Prop
  | .probing => t = others
  | .whole .. => t = others
  | .filling part _ fill => ∃ q, t.Hosts others part q ∧ (fill.failed = none → q = p)
  | .probingAgain part _ _ => t.Hosts others part p
  | .ended (.error _) => t = others
  | .ended (.ok path) =>
    path = d.request.destination ∧ ∃ place file, Saved d others p.content t place file

theorem kept_settled {d : Download} {others t t' : Tree} {part : Location} {round : Nat}
    {fill : Fill} {p q : Part} {next : Stage} (hosts : t.Hosts others part q)
    (holds : fill.failed = none → q = p) (settled : Settled d t part round fill t' next) :
    Kept d others p t' next := by
  cases settled with
  | goesOn => exact ⟨q, hosts, holds⟩
  | failed => exact hosts.rest
  | saved _ unfailed _ done =>
    obtain ⟨place, vacant, within, added, found⟩ := hosts.persist done
    exact ⟨rfl, place, _, vacant, within, holds unfailed ▸ rfl, rfl, rfl, added, found⟩
  | unsaved => exact hosts.rest
  | givenUp => exact hosts.rest
  | again _ unfailed => exact holds unfailed ▸ hosts

/-- What others change beside a part file, or while there is none, is kept just as well. -/
theorem Kept.changed {d : Download} {others others' t t' : Tree} {p : Part} {stage : Stage}
    (kept : Kept d others p t stage) (more : stage.isOpen = true) (alone : t = others → t' = others')
    (aside : ∀ part q, t.Hosts others part q → t'.Hosts others' part q) :
    Kept d others' p t' stage := by
  cases stage with
  | probing => exact alone kept
  | whole => exact alone kept
  | filling part =>
    obtain ⟨q, hosts, holds⟩ := kept
    exact ⟨q, aside part q hosts, holds⟩
  | probingAgain part => exact aside part p kept
  | ended => cases more

/-- As long as a download is under way, there is nothing of it but its part file. -/
theorem Kept.hosts_or_eq {d : Download} {others t : Tree} {p : Part} {stage : Stage}
    (kept : Kept d others p t stage) (more : stage.isOpen = true) :
    (stage.part? = none ∧ t = others) ∨
      ∃ part q, stage.part? = some part ∧ t.Hosts others part q := by
  cases stage with
  | probing => exact .inl ⟨rfl, kept⟩
  | whole => exact .inl ⟨rfl, kept⟩
  | filling part =>
    obtain ⟨q, hosts, -⟩ := kept
    exact .inr ⟨part, q, rfl, hosts⟩
  | probingAgain part => exact .inr ⟨part, p, rfl, kept⟩
  | ended => cases more

/-- Where others make an entry, there would be room for it without the download. -/
theorem Kept.free {d : Download} {others t : Tree} {p : Part} {stage : Stage} {place : Location}
    (kept : Kept d others p t stage) (more : stage.isOpen = true) (vacant : t.entry? place = none)
    (within : t.entry? place.dropLast = some .folder) (entry : Files.Entry) :
    others.entry? place = none ∧ others.entry? place.dropLast = some .folder := by
  rcases kept.hosts_or_eq more with ⟨-, rfl⟩ | ⟨part, q, -, hosts⟩
  · exact ⟨vacant, within⟩
  · obtain ⟨free, parent, -⟩ := hosts.set vacant within entry
    exact ⟨free, parent⟩

/-- A file that is written at once is one whose only chunk is all of it. -/
theorem content_write_all {size : Nat} {data : Bytes} (full : data.length = size) :
    ((Part.blank size).write 0 data).content = data := by
  apply List.ext_getElem?
  intro o
  by_cases inside : o < size
  · have held : o < data.length := full ▸ inside
    rw [Part.getElem?_content _ inside]
    simp [Part.write, Part.blank, Part.byteAt, held]
  · rw [List.getElem?_eq_none, List.getElem?_eq_none]
    · exact full ▸ Nat.not_lt.1 inside
    · rw [Part.length_content]
      exact Nat.not_lt.1 inside

theorem length_all {d : Download} (pos : 0 < d.size) : d.all.length = d.size := by
  have := d.request.size.toNat_lt
  change min (d.size - 1 - 0 + 1) ByteRange.limit = d.size
  unfold size ByteRange.limit at *
  omega

structure Preserved (d : Download) (t₀ : Tree) (h : List Happening) (t : Tree) (stage : Stage) :
    Prop where
  rooted : (withoutUs t₀ h).Rooted
  kept : Kept d (withoutUs t₀ h) (d.assembled h) t stage

theorem Preserved.congr {d : Download} {t₀ t t' : Tree} {h k : List Happening}
    {stage next : Stage} (k₀ : Preserved d t₀ h t stage) (same : withoutUs t₀ k = withoutUs t₀ h)
    (kept : Kept d (withoutUs t₀ h) (d.assembled k) t' next) : Preserved d t₀ k t' next :=
  ⟨same ▸ k₀.rooted, same ▸ kept⟩

theorem Preserved.created {d : Download} {t₀ t : Tree} {h : List Happening} {stage : Stage}
    {place : Location} (k : Preserved d t₀ h t stage) (more : stage.isOpen = true)
    (vacant : t.entry? place = none) (within : t.entry? place.dropLast = some .folder)
    (entry : Files.Entry) :
    Preserved d t₀ (h ++ [.created place entry]) (t.set place entry) stage := by
  obtain ⟨rooted, kept⟩ := k
  obtain ⟨free, parent⟩ := kept.free more vacant within entry
  constructor
  · rw [withoutUs_created free]
    exact rooted.set free parent entry
  · rw [withoutUs_created free, assembled_of_deliveries (deliveries_created d h place entry)]
    refine kept.changed more ?_ fun part q hosts => (hosts.set vacant within entry).2.2
    rintro rfl
    rfl

theorem Preserved.disrupted {d : Download} {t₀ t : Tree} {h : List Happening} {stage : Stage}
    (k : Preserved d t₀ h t stage) (more : stage.isOpen = true) (disk : Files.Disk) :
    Preserved d t₀ (h ++ [.disrupted disk]) { t with disk } stage := by
  obtain ⟨rooted, kept⟩ := k
  constructor
  · rw [withoutUs_disrupted]
    exact rooted
  · rw [withoutUs_disrupted, assembled_of_deliveries (deliveries_disrupted d h disk)]
    refine kept.changed more ?_ fun part q hosts => hosts.disrupted disk
    intro same
    rw [same]

theorem Course.preserved {d : Download} {online : List Peer → Prop} {t₀ t : Tree}
    {h : List Happening} {rounds : List Round} {stage : Stage} (rooted : t₀.Rooted)
    (course : Course d online t₀ h rounds t stage) : Preserved d t₀ h t stage := by
  have pos := size_pos_of_validate course.valid
  induction course with
  | start =>
    have first := withoutUs_nil t₀
    exact ⟨first.symm ▸ rooted, first.symm⟩
  | created entry _ more vacant within ih => exact ih.created more vacant within entry
  | elapsed node now _ _ ih =>
    refine ih.congr (withoutUs_elapsed _ _ _ _) ?_
    rw [assembled_of_deliveries (deliveries_elapsed d _ node now)]
    exact ih.kept
  | disrupted disk _ more ih => exact ih.disrupted more disk
  | checked slot p outcome _ _ ih =>
    refine ih.congr (withoutUs_answered _ _ _ _ _) ?_
    rw [assembled_of_deliveries (deliveries_checkAnswer d _ slot p outcome)]
    exact ih.kept
  | @probed older checks rounds t t' stage next candidates contacts course probing _ _ _ step ih =>
    obtain ⟨rooted', kept⟩ := ih
    refine ⟨rooted', ?_⟩
    cases turn_of_step (awaits_probed probing contacts) step with
    | notFound => exact kept
    | asksWhole => exact kept
    | blocked => exact kept
    | unfit _ made =>
      obtain rfl : t = _ := kept
      exact (rooted'.hosts made).rest
    | begins _ _ made _ _ settled =>
      obtain rfl : t = _ := kept
      have none := course.accounted.account
      rw [assembled_of_written none]
      exact kept_settled (rooted'.hosts made) (fun _ => rfl) settled
    | exhausted => exact Tree.Hosts.rest kept
    | resumes _ _ settled => exact kept_settled kept (fun _ => rfl) settled
  | @chunk h rounds t t' stage next slot p range outcome course asked step ih =>
    have account := course.accounted.account
    refine ih.congr (withoutUs_answered _ _ _ _ _) ?_
    obtain ⟨rooted', kept⟩ := ih
    cases turn_of_step (awaits_chunk asked _) step with
    | @saved _ _ _ _ data _ place taken made =>
      obtain rfl : t = _ := kept
      obtain ⟨-, rfl⟩ := all_of_asked asked
      obtain ⟨leads, vacant, -, rfl⟩ := Tree.create_ok made
      obtain ⟨status, -, -, length⟩ := length_of_accepted taken
      change d.written h = [] at account
      rw [assembled_accepted taken, assembled_of_written account]
      have content := content_write_all (length.trans (length_all pos))
      exact ⟨rfl, place, _, vacant, leads.parent, content.symm, rfl, rfl, rfl,
        leads.lookup_set vacant _⟩
    | unsaved => exact kept
    | lost _ made =>
      obtain rfl : t = _ := kept
      obtain ⟨-, vacant, -, rfl⟩ := Tree.create_ok made
      exact rooted'.erase_set vacant _
    | asksNext => exact kept
    | nobodyLeft => exact kept
    | delivered found taken _ settled =>
      obtain ⟨q, hosts, holds⟩ := kept
      obtain ⟨rfl, rfl⟩ := at?_of_asked account.orderly asked found
      rw [assembled_accepted taken]
      refine kept_settled (hosts.writePart _ _) (fun unfailed => ?_) settled
      rw [holds (Fill.failed_deliver _ _ _ ▸ unfailed)]
    | abandoned found _ _ settled =>
      obtain ⟨q, hosts, -⟩ := kept
      refine kept_settled (hosts.writePart _ _) (fun unfailed => ?_) settled
      exact absurd unfailed (Fill.failed_abandon_ne_none _ _ _)
    | refused found refused settled =>
      obtain ⟨q, hosts, holds⟩ := kept
      obtain ⟨rfl, rfl⟩ := at?_of_asked account.orderly asked found
      rw [assembled_of_deliveries (deliveries_refused refused h slot _)]
      exact kept_settled hosts (fun unfailed => holds (Fill.failed_refuse _ _ ▸ unfailed)) settled

/-- Amid a round of a download that can write, the part file holds just the accepted chunks. -/
theorem Course.hosts {d : Download} {online : List Peer → Prop} {t₀ t : Tree}
    {h : List Happening} {rounds : List Round} {stage : Stage} (rooted : t₀.Rooted)
    (writes : Happening.Always (·.write = none) t₀.disk h)
    (course : Course d online t₀ h rounds t stage) {part : Location} {round : Nat} {fill : Fill}
    (amid : stage = .filling part round fill) :
    t.Hosts (withoutUs t₀ h) part (d.assembled h) := by
  have kept := (course.preserved rooted).kept
  have unfailed := course.unfailed writes amid
  subst amid
  obtain ⟨q, hosts, holds⟩ := kept
  exact holds unfailed ▸ hosts

theorem dropped_eq {d : Download} {others t t' : Tree} {p : Part} {stage : Stage}
    (kept : Kept d others p t stage) (more : stage.isOpen = true)
    (given : d.step t stage .cancel = .ok (t', .ended (.error .cancelled))) : t' = others := by
  rw [d.step_cancel t more] at given
  rcases kept.hosts_or_eq more with ⟨none, rfl⟩ | ⟨part, q, some, hosts⟩
  · rw [none] at given
    cases given
    rfl
  · rw [some] at given
    cases given
    exact hosts.rest

/-- Whatever peers do, others make in the meantime and the disk refuses: a download that fails or is
given up leaves the tree as it would be without it, and one that succeeds adds one file to it, the
destination, at a place where nothing was. -/
theorem only_the_destination_is_added {d : Download} {s : Site} {c' : Situation}
    {h : List Happening} {e : Except Cut (Except DownloadError String)} (rooted : s.files.Rooted)
    (run : Run d.plan ⟨[], s⟩ h c' e) :
    (∀ error, e = .ok (.error error) → c'.site.files = withoutUs s.files h) ∧
    (e = .error .dropped → c'.site.files = withoutUs s.files h) ∧
    (∀ path, e = .ok (.ok path) → path = d.request.destination ∧
      ∃ place file, Tree.entry? (withoutUs s.files h) place = none ∧
        c'.site.files.entries =
          s.files.entries ++ Happening.creations h ++ [(place, .file file)] ∧
        c'.site.files.lookup d.request.destination = .ok (place, .file file)) := by
  rcases run_plan (fun _ => True) trivial (fun _ _ _ => trivial) run with
    ⟨flaw, -, rfl, same, rfl⟩ | ⟨-, conducted⟩
  · rw [same]
    have first := withoutUs_nil s.files
    refine ⟨fun _ _ => first.symm, fun _ => first.symm, ?_⟩
    intro path ok
    cases ok
  · cases conducted with
    | @ended rounds result course =>
      have kept := (course.preserved rooted).kept
      cases result with
      | error error =>
        refine ⟨fun _ _ => kept, fun _ => kept, ?_⟩
        intro path ok
        cases ok
      | ok path =>
        obtain ⟨rfl, place, file, saved⟩ := kept
        refine ⟨?_, ?_, ?_⟩
        · intro error failed
          cases failed
        · intro dropped
          cases dropped
        · intro path ok
          cases ok
          refine ⟨rfl, place, file, saved.vacant, ?_, saved.found⟩
          rw [saved.added, Tree.entries_set saved.vacant]
          rfl
    | dropped course more given =>
      have kept := (course.preserved rooted).kept
      have left := dropped_eq kept more given
      refine ⟨fun _ _ => left, fun _ => left, ?_⟩
      intro path ok
      cases ok
    | broken =>
      refine ⟨?_, ?_, ?_⟩
      · intro error failed
        cases failed
      · intro dropped
        cases dropped
      · intro path ok
        cases ok

theorem sample_rooted : Sample.site.files.Rooted :=
  Tree.rooted_empty.set rfl rfl .folder

/-- The folder that somebody made stays, and the file is beside it. If the disk is full by the time
that the last chunk comes, there is only the folder. -/
theorem only_the_sample_is_added :
    (∃ c', Run Sample.download.plan ⟨[], Sample.site⟩ Sample.happenings c' (.ok (.ok "out/f")) ∧
      ∃ place file, c'.site.files.entries =
        [(["out"], .folder), (["out", "x"], .folder), (place, .file file)]) ∧
    ∃ c', Run Sample.download.plan ⟨[], Sample.site⟩ Sample.cramped c'
        (.ok (.error (.file .noSpace))) ∧
      c'.site.files.entries = [(["out"], .folder), (["out", "x"], .folder)] := by
  constructor
  · obtain ⟨c', run⟩ := Sample.run
    obtain ⟨-, -, saved⟩ := only_the_destination_is_added sample_rooted run
    obtain ⟨-, place, file, -, entries, -⟩ := saved _ rfl
    exact ⟨c', run, place, file, entries⟩
  · obtain ⟨c', run⟩ := Sample.run_cramped
    obtain ⟨failed, -, -⟩ := only_the_destination_is_added sample_rooted run
    exact ⟨c', run, congrArg Tree.entries (failed _ rfl)⟩

end Download
end LocalSwarm
