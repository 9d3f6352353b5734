import LocalSwarm.Proofs.Downloads.Chunks
import LocalSwarm.Proofs.Downloads.Content
import LocalSwarm.Proofs.Downloads.PartNames
import LocalSwarm.Proofs.Downloads.Rounds

/-! Downloads from a network that serves them well. However the file is cut, the download ends as if
the file were made at its destination at once: saved if nothing is there, and otherwise in failure
with the tree as it was. This needs room for a part file, unless the file is fetched whole. -/
namespace LocalSwarm.Download
open Files (Tree Location Part)
open Files.SharedFolders (slice)

variable {d : Download} {t₀ t t' : Tree} {content : Bytes} {h k : List Happening}

/-- Contacts that a file can be parted among. -/
def Reachable (contacts : List Peer) : Prop :=
  contacts ≠ [] ∧ contacts.length ≤ Partition.handLimit

/-- Whoever was asked holds the wanted copy, and has answered each request for a chunk with what the
content has there. -/
structure Faithful (d : Download) (content : Bytes) (h : List Happening) : Prop where
  length : content.length = d.size
  holds : ∀ slot callee file outcome, .answered slot ⟨callee, .checkFile file⟩ outcome ∈ h →
    Outcome.qualifies d.request.size d.request.version outcome = true
  delivers : ∀ slot callee file range outcome,
    .answered slot ⟨callee, .download file range⟩ outcome ∈ h →
      ∃ status, outcome.chunk? = some (status, slice content range) ∧
        DownloadRequest.qualifies d.request.size d.request.version status = true

/-- Whether the file can be made at its destination. -/
def Free (d : Download) (t : Tree) : Prop :=
  ∃ place, t.Leads d.request.destination place ∧ t.entry? place = none

theorem Faithful.of_append (f : Faithful d content (h ++ k)) : Faithful d content h :=
  ⟨f.length,
    fun slot callee file outcome member =>
      f.holds slot callee file outcome (List.mem_append_left _ member),
    fun slot callee file range outcome member =>
      f.delivers slot callee file range outcome (List.mem_append_left _ member)⟩

/-- What is delivered is accepted. -/
theorem Faithful.accepted (f : Faithful d content h) {slot : Nat} {callee : Callee}
    {file : FileQuery} {range : ByteRange} {outcome : Outcome} (inside : range.stop < d.size)
    (member : .answered slot ⟨callee, .download file range⟩ outcome ∈ h) :
    d.accepted range outcome.chunk? = some (slice content range) := by
  obtain ⟨status, answer, holds⟩ := f.delivers slot callee file range outcome member
  have full : (slice content range).length = range.length :=
    Files.SharedFolders.length_slice (inside.trans_eq f.length.symm)
  unfold Download.accepted
  rw [answer]
  simp only [DownloadRequest.isValidChunk, holds, full, decide_true, Bool.and_self, if_true]

theorem getElem?_of_slice {range : ByteRange} {o : Nat} {byte : UInt8} (first : range.start ≤ o)
    (held : (slice content range)[o - range.start]? = some byte) : content[o]? = some byte := by
  rw [slice, List.getElem?_take] at held
  split at held
  · rwa [List.getElem?_drop, Nat.add_sub_cancel' first] at held
  · cases held

/-- What is put together from all chunks is the content. -/
theorem Faithful.assembled {stage : Stage} (f : Faithful d content h) (trusting : Trusting d h stage)
    (complete : Missing d.size (d.written h) []) : (d.assembled h).content = content := by
  apply List.ext_getElem?
  intro o
  by_cases inside : o < d.size
  · have held : 0 < ByteRange.cover (d.written h) o := by
      have exact := complete.exact o
      rw [List.append_nil, if_pos inside] at exact
      omega
    obtain ⟨byte, found, before, slot, p, range, outcome, status, data, after, split, answer, first,
      -, -, -, -, -, -, brought, -⟩ := trusting.content inside held
    obtain ⟨status', answer', -⟩ := f.delivers slot (.contact p) d.request.query range outcome
      (split ▸ List.mem_append_right _ List.mem_cons_self)
    obtain ⟨-, rfl⟩ := Prod.mk.inj (Option.some.inj (answer.symm.trans answer'))
    rw [found, getElem?_of_slice first brought]
  · rw [List.getElem?_eq_none, List.getElem?_eq_none]
    · exact f.length ▸ Nat.not_lt.1 inside
    · rw [Part.length_content]
      exact Nat.not_lt.1 inside

/-- A download from a faithful network has nothing undelivered and asks for no second round. It ends
well just if the destination is free. -/
def Smooth (d : Download) (t₀ : Tree) : Stage → Prop
  | .probing => True
  | .whole .. => True
  | .filling part _ fill =>
    fill.undelivered = [] ∧ fill.failed = none ∧
      ∀ place, t₀.Leads d.request.destination place → place ≠ part
  | .probingAgain .. => False
  | .ended (.ok _) => d.Free t₀
  | .ended (.error _) => ¬d.Free t₀

theorem smooth_settled {part : Location} {round : Nat} {fill : Fill} {p : Part} {next : Stage}
    (settled : Settled d t part round fill t' next) (none : fill.undelivered = [])
    (unfailed : fill.failed = .none) (synced : t.disk.sync = .none)
    (apart : ∀ place, t₀.Leads d.request.destination place → place ≠ part)
    (hosts : t.Hosts t₀ part p) : d.Smooth t₀ next := by
  have nothing : fill.pending = [] := by
    have same := fill.pending_perm
    rw [none] at same
    exact same.eq_nil
  cases settled with
  | goesOn => exact ⟨none, unfailed, apart⟩
  | failed _ failed =>
    rw [unfailed] at failed
    cases failed
  | saved _ _ _ done =>
    obtain ⟨place, leads, vacant, -⟩ := (hosts.persist_eq_ok_iff synced).1 done
    exact ⟨place, leads, vacant⟩
  | unsaved _ _ _ failed =>
    rintro ⟨place, leads, vacant⟩
    have done := (hosts.persist_eq_ok_iff synced).2 ⟨place, leads, vacant, apart place leads, rfl⟩
    rw [failed] at done
    cases done
  | givenUp _ _ some => exact absurd nothing some
  | again _ _ some => exact absurd nothing some

/-- Nobody else makes entries in the tree, and its disk refuses nothing. -/
structure Undisturbed (t₀ : Tree) (h : List Happening) : Prop where
  alone : Happening.creations h = []
  willing : Happening.Always (· = .willing) t₀.disk h

namespace Undisturbed

theorem of_append (u : Undisturbed t₀ (h ++ k)) : Undisturbed t₀ h := by
  obtain ⟨alone, willing⟩ := u
  rw [Happening.creations_append] at alone
  exact ⟨(List.append_eq_nil_iff.1 alone).1, willing.of_append⟩

theorem withoutUs_eq (u : Undisturbed t₀ h) : withoutUs t₀ h = t₀ := by
  refine Tree.ext ?_ (u.willing.disk.trans u.willing.1.symm)
  rw [withoutUs, u.alone, List.append_nil]

end Undisturbed

theorem Course.smooth {rounds : List Round} {stage : Stage}
    (course : Course d Reachable t₀ h rounds t stage) (rooted : t₀.Rooted)
    (faithful : Faithful d content h) (undisturbed : Undisturbed t₀ h)
    (fits : d.chunkSize < d.size → d.PartFits t₀) : d.Smooth t₀ stage := by
  have plain := DownloadRequest.isPlain_of_validate course.valid
  induction course with
  | start => trivial
  | created =>
    have alone := undisturbed.alone
    rw [Happening.creations_append] at alone
    cases (List.append_eq_nil_iff.1 alone).2
  | elapsed _ _ _ _ ih => exact ih faithful.of_append undisturbed.of_append
  | disrupted _ _ _ ih => exact ih faithful.of_append undisturbed.of_append
  | checked _ _ _ _ _ ih => exact ih faithful.of_append undisturbed.of_append
  | @probed older checks rounds t t' stage next candidates contacts course probing _ reachable
      probed step ih =>
    have kept := (course.preserved rooted).kept
    rw [undisturbed.withoutUs_eq] at kept
    have willing : t.disk = .willing := course.disk_eq.trans undisturbed.willing.disk
    cases turn_of_step (awaits_probed probing contacts) step with
    | notFound =>
      obtain ⟨p, online⟩ := List.exists_mem_of_ne_nil _ reachable.1
      rcases probed.others p online with found | ⟨slot, outcome, heard, denied⟩
      · cases found
      · have holds := faithful.holds slot _ _ outcome (List.mem_append_right _ heard)
        rw [denied] at holds
        cases holds
    | asksWhole => trivial
    | blocked large failed =>
      obtain rfl : t = t₀ := kept
      rintro ⟨place, leads, -⟩
      obtain ⟨part, there, vacant, -⟩ := (fits large).leads plain leads
      rw [there.create vacant (congrArg Files.Disk.make willing)] at failed
      cases failed
    | unfit large made unfit =>
      have short : ¬lengthLimit < d.request.size.toNat := Nat.not_lt.2 (fits large).length
      rw [Download.unfit, if_neg short, Tree.disk_eq_of_create made, willing] at unfit
      cases unfit
    | begins present large made _ parted settled =>
      obtain rfl : t = t₀ := kept
      have synced := congrArg Files.Disk.sync ((Tree.disk_eq_of_create made).trans willing)
      refine smooth_settled settled rfl rfl synced ?_ (rooted.hosts made)
      intro place leads
      obtain ⟨part, there, -, apart⟩ := (fits large).leads plain leads
      rw [there.unique (Tree.create_ok made).1]
      exact apart.symm
    | exhausted => exact (ih faithful undisturbed).elim
    | resumes => exact (ih faithful undisturbed).elim
  | @chunk h rounds t t' stage next slot p range outcome course asked step ih =>
    have inside := (course.within asked).inside
    have taken := faithful.accepted inside (List.mem_append_right h List.mem_cons_self)
    have before := undisturbed.of_append
    have smooth := ih faithful.of_append before
    have kept := (course.preserved rooted).kept
    rw [before.withoutUs_eq] at kept
    have willing : t.disk = .willing := course.disk_eq.trans before.willing.disk
    cases turn_of_step (awaits_chunk asked _) step with
    | saved _ made =>
      obtain rfl : t = t₀ := kept
      obtain ⟨leads, vacant, -⟩ := Tree.create_ok made
      exact ⟨_, leads, vacant⟩
    | unsaved _ failed =>
      obtain rfl : t = t₀ := kept
      rintro ⟨place, leads, vacant⟩
      rw [leads.create vacant (congrArg Files.Disk.make willing)] at failed
      cases failed
    | lost _ _ lost =>
      rw [willing] at lost
      cases lost
    | asksNext refused =>
      obtain ⟨-, rfl⟩ := all_of_asked asked
      rw [refused] at taken
      cases taken
    | nobodyLeft refused =>
      obtain ⟨-, rfl⟩ := all_of_asked asked
      rw [refused] at taken
      cases taken
    | delivered found _ _ settled =>
      obtain ⟨q, hosts, -⟩ := kept
      obtain ⟨none, unfailed, apart⟩ := smooth
      refine smooth_settled settled ?_ ?_ ?_ apart (hosts.writePart _ _)
      · rw [Fill.undelivered_deliver, none]
      · rw [Fill.failed_deliver, unfailed]
      · rw [Tree.disk_writePart, willing]
        rfl
    | abandoned _ _ refused =>
      rw [willing] at refused
      cases refused
    | refused found refused =>
      obtain ⟨rfl, rfl⟩ := at?_of_asked course.accounted.account.orderly asked found
      rw [refused] at taken
      cases taken

/-- A run of a download that is not given up. Somebody is online whenever the download looks for
contacts, the network is faithful, and the tree is left to the download. -/
structure Served (d : Download) (content : Bytes) (s : Site) (h : List Happening) (c : Situation)
    (e : Except Cut (Except DownloadError String)) : Prop where
  run : Run d.plan ⟨[], s⟩ h c e
  kept : e ≠ .error .dropped
  first : Reachable (s.node.table.online s.now)
  later : ∀ node now, .elapsed node now ∈ h → Reachable (node.table.online now)
  faithful : Faithful d content h
  undisturbed : Undisturbed s.files h

variable {d' : Download} {s : Site} {h' : List Happening} {c c' : Situation}
  {e e' : Except Cut (Except DownloadError String)}

/-- A served download ends as if the file were made at its destination at once. -/
theorem Served.outcome (served : Served d content s h c e) (rooted : s.files.Rooted)
    (valid : d.request.validate s.files = .ok ())
    (fits : d.chunkSize < d.size → d.PartFits s.files) :
    (∃ place, s.files.create d.request.destination (Tree.finished content) =
        .ok (c.site.files, place) ∧ e = .ok (.ok d.request.destination)) ∨
    ∃ fault error, s.files.create d.request.destination (Tree.finished content) = .error fault ∧
      e = .ok (.error error) ∧ c.site.files = s.files := by
  rcases run_plan Reachable served.first served.later served.run with
    ⟨flaw, refused, -⟩ | ⟨-, conducted⟩
  · rw [valid] at refused
    cases refused
  · cases conducted with
    | @ended rounds result course =>
      have smooth := course.smooth rooted served.faithful served.undisturbed fits
      have able : s.files.disk.make = none :=
        congrArg Files.Disk.make served.undisturbed.willing.1
      have kept := (course.preserved rooted).kept
      rw [served.undisturbed.withoutUs_eq] at kept
      cases result with
      | error error =>
        right
        cases made : s.files.create d.request.destination (Tree.finished content) with
        | error fault => exact ⟨fault, error, rfl, rfl, kept⟩
        | ok found =>
          obtain ⟨leads, vacant, -⟩ := Tree.create_ok made
          exact absurd ⟨_, leads, vacant⟩ smooth
      | ok path =>
        left
        obtain ⟨rfl, place, file, saved⟩ := kept
        obtain ⟨place', leads, -⟩ := smooth
        have there := saved.added ▸ leads.mono (Tree.keepsFolders_set saved.vacant _)
        obtain rfl := there.of_lookup saved.found
        rw [served.faithful.assembled course.trusting course.accounted.account] at saved
        rw [saved.added, saved.entry_eq]
        exact ⟨place, leads.create saved.vacant able _, rfl⟩
    | dropped => exact absurd rfl served.kept
    | broken _ course probing reachable probed failed =>
      have many := course.fault probing failed
      have few := probed.sublist.length_le.trans reachable.2
      exact absurd many (Nat.not_lt.2 few)

/-- However a file is cut, whether it is fetched whole or in parts of any size, served downloads of it
end alike, and as if the file were made at its destination at once: with the same file there, or in
failure with the tree as it was. Where it is fetched in parts, there has to be room for the part
file. -/
theorem outcome_is_the_same_however_cut (same : d'.request = d.request) (rooted : s.files.Rooted)
    (valid : d.request.validate s.files = .ok ()) (served : Served d content s h c e)
    (served' : Served d' content s h' c' e') (fits : d.chunkSize < d.size → d.PartFits s.files)
    (fits' : d'.chunkSize < d'.size → d'.PartFits s.files) :
    (∃ place, s.files.create d.request.destination (Tree.finished content) =
        .ok (c.site.files, place) ∧
      c.site.files.lookup d.request.destination = .ok (place, Tree.finished content) ∧
      c'.site.files = c.site.files ∧
      e = .ok (.ok d.request.destination) ∧ e' = .ok (.ok d.request.destination)) ∨
    ∃ fault error error',
      s.files.create d.request.destination (Tree.finished content) = .error fault ∧
      e = .ok (.error error) ∧ e' = .ok (.error error') ∧
      c.site.files = s.files ∧ c'.site.files = s.files := by
  have one := served.outcome rooted valid fits
  have other := served'.outcome rooted (same ▸ valid) fits'
  rw [same] at other
  rcases one with ⟨place, made, rfl⟩ | ⟨fault, error, failed, rfl, unchanged⟩
  · rcases other with ⟨place', made', rfl⟩ | ⟨fault', error', failed', -⟩
    · obtain ⟨trees, -⟩ := Prod.mk.inj (Except.ok.inj (made'.symm.trans made))
      obtain ⟨leads, vacant, -, added⟩ := Tree.create_ok made
      exact .inl ⟨place, made, added ▸ leads.lookup_set vacant _, trees, rfl, rfl⟩
    · rw [made] at failed'
      cases failed'
  · rcases other with ⟨place', made', -⟩ | ⟨fault', error', -, rfl, unchanged'⟩
    · rw [failed] at made'
      cases made'
    · exact .inr ⟨fault, error, error', failed, rfl, rfl, unchanged, unchanged'⟩

/-! Two peers have the file, and the download may fetch it from one or from both. -/

namespace Sample

def named (name : String) (chunkLimit : Nat) : Download :=
  ⟨⟨"out", "b", "", name, 2, "v"⟩, chunkLimit, 2, 2, 0⟩

def probes (d : Download) : List Happening :=
  [d.checkAnswer 0 idle (.ok ⟨idle, .checkFile status⟩),
    d.checkAnswer 1 honest (.ok ⟨honest, .checkFile status⟩)]

def chunks (d : Download) (ranges : List (Nat × Peer × ByteRange)) : List Happening :=
  ranges.map fun (slot, p, range) =>
    d.chunkAnswer slot p range (.ok ⟨p, .download status (slice [7, 9] range)⟩)

theorem faithful (d : Download) (size : d.request.size = 2) (version : d.request.version = "v")
    (ranges : List (Nat × Peer × ByteRange)) :
    Faithful d [7, 9] (probes d ++ chunks d ranges) := by
  have good : DownloadRequest.qualifies d.request.size d.request.version status = true := by
    rw [size, version]
    decide +kernel
  refine ⟨?_, ?_, ?_⟩
  · rw [Download.size, size]
    rfl
  · intro slot callee file outcome member
    rcases List.mem_append.1 member with check | chunk
    · simp only [probes, checkAnswer, List.mem_cons, List.not_mem_nil, or_false,
        Happening.answered.injEq] at check
      rcases check with ⟨-, -, rfl⟩ | ⟨-, -, rfl⟩
      · exact good
      · exact good
    · obtain ⟨x, -, same⟩ := List.mem_map.1 chunk
      cases same
  · intro slot callee file range outcome member
    rcases List.mem_append.1 member with check | chunk
    · simp [probes, checkAnswer] at check
    · obtain ⟨x, -, same⟩ := List.mem_map.1 chunk
      cases same
      exact ⟨status, rfl, good⟩

theorem served (d : Download) (size : d.request.size = 2) (version : d.request.version = "v")
    (ranges : List (Nat × Peer × ByteRange)) {c : Situation}
    {result : Except DownloadError String}
    (run : Run d.plan ⟨[], site⟩ (probes d ++ chunks d ranges) c (.ok result)) :
    Served d [7, 9] site (probes d ++ chunks d ranges) c (.ok result) := by
  have answers : ∀ x ∈ probes d ++ chunks d ranges, x.isAnswer = true := by
    intro x member
    rcases List.mem_append.1 member with check | chunk
    · rcases List.mem_pair.1 check with rfl | rfl <;> rfl
    · obtain ⟨y, -, rfl⟩ := List.mem_map.1 chunk
      rfl
  refine ⟨run, nofun, ?_, ?_, faithful d size version ranges, ?_⟩
  · rw [online_site]
    exact ⟨List.cons_ne_nil _ _, by decide⟩
  · intro node now member
    cases answers _ member
  · refine ⟨List.filterMap_eq_nil_iff.2 fun x member => ?_, rfl, fun disk member => ?_⟩
    · have answer := answers x member
      cases x with
      | answered => rfl
      | created | elapsed | disrupted => cases answer
    · cases answers _ member

theorem both_cuts_end_with_the_file :
    ∃ c c', Served (named "f" 2) [7, 9] site
        (probes (named "f" 2) ++ chunks (named "f" 2) [(0, idle, (named "f" 2).all)]) c
        (.ok (.ok "out/f")) ∧
      Served (named "f" 1) [7, 9] site
        (probes (named "f" 1) ++ chunks (named "f" 1) [(0, idle, first), (1, honest, second)]) c'
        (.ok (.ok "out/f")) ∧
      (named "f" 2).request.validate site.files = .ok () ∧ (named "f" 1).PartFits site.files ∧
      c'.site.files = c.site.files ∧
      ∃ place, site.files.create "out/f" (Tree.finished [7, 9]) = .ok (c.site.files, place) ∧
        c.site.files.lookup "out/f" = .ok (place, Tree.finished [7, 9]) := by
  have runs : ∃ c, Run (named "f" 2).plan ⟨[], site⟩
      (probes (named "f" 2) ++ chunks (named "f" 2) [(0, idle, (named "f" 2).all)]) c
      (.ok (.ok "out/f")) := run_of_replay (by decide +kernel)
  have runs' : ∃ c, Run (named "f" 1).plan ⟨[], site⟩
      (probes (named "f" 1) ++ chunks (named "f" 1) [(0, idle, first), (1, honest, second)]) c
      (.ok (.ok "out/f")) := run_of_replay (by decide +kernel)
  obtain ⟨c, run⟩ := runs
  obtain ⟨c', run'⟩ := runs'
  have whole := served _ rfl rfl _ run
  have parts := served _ rfl rfl _ run'
  have valid : (named "f" 2).request.validate site.files = .ok () := by decide +kernel
  have fits : (named "f" 1).PartFits site.files := by
    constructor <;> decide +kernel
  have same : (named "f" 1).request = (named "f" 2).request := rfl
  rcases outcome_is_the_same_however_cut same sample_rooted valid whole parts
      (fun large => absurd large (by decide)) (fun _ => fits) with
    ⟨place, made, saved, same, -, -⟩ | ⟨fault, error, -, -, failed, -⟩
  · exact ⟨c, c', whole, parts, valid, fits, same, place, made, saved⟩
  · cases failed

theorem inOrder_two (a b : Call) :
    Plan.inOrder 2 [a, b] = .await .departure [(0, a), (1, b)] id fun slot outcome =>
      .await .departure [] id fun slot' outcome' => .done [(slot', outcome'), (slot, outcome)] := rfl

theorem run_probes {name : String} {limit : Nat} {h : List Happening} {c : Situation}
    {e : Except Cut (Except DownloadError String)}
    (run : Run ((named name limit).resume (named name limit).follow .probing
      (.probed [idle, honest]) []) ⟨[], site⟩ h c e) :
    Run ((named name limit).follow .probing []) ⟨[], site⟩ (probes (named name limit) ++ h) c e := by
  rw [follow_of_isProbing _ rfl]
  refine .look ?_
  change Run (Plan.bind (Plan.onDrop _ (Plan.bind (Plan.inOrder 2
    ((site.node.table.online site.now).map fun p => ⟨.contact p, _⟩)) _)) _) _ _ _ _
  rw [online_site, List.map_cons, List.map_singleton, inOrder_two]
  refine .answered_first List.mem_cons_self ?_
  refine .answered_first List.mem_cons_self ?_
  exact run

/-- The file is saved once the first peer has delivered all of it. -/
theorem run_whole {name : String} {t : Tree} {place : Location}
    (valid : (named name 2).request.validate site.files = .ok ())
    (made : site.files.create (named name 2).request.destination (Tree.finished [7, 9]) =
      .ok (t, place)) :
    Run (named name 2).plan ⟨[], site⟩
      (probes (named name 2) ++ chunks (named name 2) [(0, idle, (named name 2).all)])
      ⟨[], { site with files := t }⟩ (.ok (.ok (named name 2).request.destination)) := by
  have found : (named name 2).step site.files .probing (.probed [idle, honest]) =
      .ok (site.files, .whole idle [honest]) := rfl
  have taken : (named name 2).accepted (named name 2).all (some (status, [7, 9])) = some [7, 9] :=
    (faithful (named name 2) rfl rfl [(0, idle, (named name 2).all)]).accepted (show 1 < 2 by decide)
      (List.mem_append_right _ List.mem_cons_self)
  have saved : (named name 2).step site.files (.whole idle [honest])
      (.chunk 0 (some (status, [7, 9]))) =
        .ok (t, .ended (.ok (named name 2).request.destination)) := by
    change (named name 2).takeWhole site.files [honest] (some (status, [7, 9])) = _
    unfold takeWhole
    rw [taken]
    dsimp only
    rw [Tree.save, made]
    rfl
  refine run_of_follow valid (run_probes (run_of_step rfl found ?_))
  rw [follow_of_isAsking _ rfl]
  refine .answered_first List.mem_cons_self (run_of_step rfl saved ?_)
  rw [follow_ended]
  exact .done _

/-- The download ends when the part file cannot be made. -/
theorem run_blocked {name : String} {error : Files.FileError}
    (valid : (named name 1).request.validate site.files = .ok ())
    (failed : site.files.create (named name 1).partPath (.part (.blank 2)) = .error error) :
    Run (named name 1).plan ⟨[], site⟩ (probes (named name 1) ++ chunks (named name 1) [])
      ⟨[], site⟩ (.ok (.error (.file error))) := by
  have blocked : (named name 1).step site.files .probing (.probed [idle, honest]) =
      .ok (site.files, .ended (.error (.file error))) := by
    change (named name 1).proceed site.files [idle, honest] = _
    have large : ¬(named name 1).request.size.toNat ≤ (named name 1).chunkSize :=
      show ¬2 ≤ 1 by decide
    have two : (named name 1).request.size.toNat = 2 := rfl
    rw [proceed, if_neg (show ¬[idle, honest].isEmpty = true from Bool.false_ne_true), if_neg large,
      two, failed]
    rfl
  refine run_of_follow valid (run_probes (run_of_step rfl blocked ?_))
  rw [follow_ended]
  exact .done _

/-- A name that a file can have, and its part file cannot. -/
def longName : String := String.ofList (List.replicate 241 'n')

theorem toList_longName : longName.toList = List.replicate 241 'n' := String.toList_ofList

theorem mem_longName {c : Char} (member : c ∈ longName.toList) : c = 'n' := by
  rw [toList_longName] at member
  exact List.eq_of_mem_replicate member

theorem utf8_longName : Wire.utf8 longName = List.replicate 241 110 := by
  have ascii : ∀ c ∈ List.replicate 241 'n', c.toNat < 128 := by
    intro c member
    rw [List.eq_of_mem_replicate member]
    decide
  refine (Wire.utf8_ofList_of_ascii ascii).trans ?_
  rw [List.map_replicate]
  rfl

theorem size_longName : longName.utf8ByteSize = 241 := by
  rw [← Wire.length_utf8, utf8_longName, List.length_replicate]

theorem longName_ne {text : String} (brief : text.utf8ByteSize ≤ 2) : longName ≠ text := by
  intro same
  rw [← same, size_longName] at brief
  exact absurd brief (by decide)

theorem slash_longName : '/' ∉ longName.toList := fun slash =>
  absurd (mem_longName slash) (by decide)

theorem isPlain_longName : Files.Path.isPlain longName = true :=
  Files.Path.isPlain_of_not_mem slash_longName (longName_ne (by decide)) (longName_ne (by decide))
    (longName_ne (by decide))

theorem destination_longName : Files.Path.join "out" longName = "out" ++ "/" ++ longName := by
  rw [Files.Path.join, Files.Path.isAbsolute_of_not_mem slash_longName]
  rfl

theorem leads_longName : site.files.Leads (Files.Path.join "out" longName) ["out", longName] := by
  have checked : Tree.check (Files.Path.join "out" longName) = .ok () := by
    rw [destination_longName, Tree.check, if_neg, if_neg, if_neg]
    · rw [String.utf8ByteSize_append, size_longName]
      decide
    · rw [List.contains_iff_mem, String.toList_append, List.mem_append]
      rintro (front | zero)
      · exact absurd front (by decide)
      · exact absurd (mem_longName zero) (by decide)
    · intro empty
      have size := congrArg String.utf8ByteSize empty
      rw [String.utf8ByteSize_append, size_longName] at size
      exact absurd size (by decide)
  have leads : site.files.Leads (Files.Path.join "out" "f") ["out", "f"] :=
    (Tree.leads_of_vacancy (by decide +kernel)).1
  obtain ⟨folder, here, leads'⟩ := leads.beside (by decide) (by decide) slash_longName
    (longName_ne (by decide)) (longName_ne (by decide)) (longName_ne (by decide))
    (by rw [size_longName]; decide) checked
  obtain ⟨rfl, -⟩ := List.append_inj' (show ["out"] ++ ["f"] = folder ++ ["f"] from here) rfl
  exact leads'

theorem vacant_longName : site.files.entry? ["out", longName] = none := rfl

theorem validate_longName (limit : Nat) :
    (named longName limit).request.validate site.files = .ok () := by
  have short : DownloadRequest.isShortAscii longName = true := by
    rw [DownloadRequest.isShortAscii, utf8_longName, size_longName]
    decide +kernel
  have others : ∀ text ∈ ["b", "", "v"], DownloadRequest.isShortAscii text = true := by
    decide +kernel
  have ascii : List.all ["b", "", longName, "v"] DownloadRequest.isShortAscii = true := by
    simp [short, others]
  have free : (site.files.lookup (Files.Path.join "out" longName)).isOk = false := by
    rw [leads_longName.lookup, vacant_longName]
    rfl
  have folder : site.files.isFolder "out" = true := by decide +kernel
  exact DownloadRequest.validate_eq_ok_iff.2 ⟨show (2 : UInt64) ≠ 0 by decide,
    show "v" ≠ "" by decide, ascii, isPlain_longName, folder, free⟩

/-- The file is saved when it is fetched whole, and not when it is fetched in parts. -/
theorem long_name_is_saved_only_whole :
    ∃ c c', Served (named longName 2) [7, 9] site
        (probes (named longName 2) ++
          chunks (named longName 2) [(0, idle, (named longName 2).all)]) c
        (.ok (.ok (named longName 2).request.destination)) ∧
      Served (named longName 1) [7, 9] site
        (probes (named longName 1) ++ chunks (named longName 1) []) c'
        (.ok (.error (.file .nameTooLong))) ∧
      (named longName 1).request = (named longName 2).request ∧
      (named longName 1).request.validate site.files = .ok () ∧
      longName.utf8ByteSize ≤ Tree.nameLimit := by
  have made := leads_longName.create vacant_longName rfl (Tree.finished [7, 9])
  have failed := create_partPath_of_long (d := named longName 1) isPlain_longName leads_longName
    (by
      change (Files.Path.join "out" longName).utf8ByteSize + 15 ≤ Tree.pathLimit
      rw [destination_longName, String.utf8ByteSize_append, size_longName]
      decide)
    (by
      change Tree.nameLimit < longName.utf8ByteSize + 15
      rw [size_longName]
      decide) (.part (.blank 2))
  have whole := run_whole (validate_longName 2) made
  have parts := run_blocked (validate_longName 1) failed
  exact ⟨_, _, served _ rfl rfl _ whole, served _ rfl rfl _ parts, rfl, validate_longName 1,
    size_longName ▸ by decide⟩

end Sample
end LocalSwarm.Download
