import LocalSwarm.Download
import LocalSwarm.Plan

/-! What a node does to download a file. Main statement: with every awaited event a download comes
nearer to its end, by `rank`, so that its plan is a finite tree. -/
namespace LocalSwarm

def Outcome.status? : Outcome → Option FileStatus
  | .ok reply =>
    match reply.response with
    | .checkFile s => some s
    | _ => none
  | .error _ => none

def Outcome.chunk? : Outcome → Option (FileStatus × Bytes)
  | .ok reply =>
    match reply.response with
    | .download s data => some (s, data)
    | _ => none
  | .error _ => none

/-- Ask every online contact about a file, `width` of them at a time. Those that hold exactly the
wanted copy are named in table order. -/
def probe (file : FileQuery) (size : UInt64) (version : String) (width : Nat) : Plan (List Peer) := do
  let site ← Plan.site
  let candidates := site.node.table.online site.now
  let outcomes ← Plan.inOrder width (candidates.map fun p => ⟨.contact p, .checkFile file⟩)
  let holds (slot : Nat) : Bool :=
    ((outcomes.lookup slot).bind Outcome.status?).any (DownloadRequest.qualifies size version)
  return (candidates.zipIdx.filter fun (_, slot) => holds slot).map (·.1)

namespace Transfer

/-- How many bytes are still to come. -/
def work (x : Transfer) : Nat := x.piece.size + sumOver ByteRange.size x.later

theorem work_pos (x : Transfer) : 0 < x.work := by
  unfold work ByteRange.size
  omega

theorem work_start {c : Peer} {ps : List ByteRange} {x : Transfer} (h : start? c ps = some x) :
    x.work = sumOver ByteRange.size ps := by
  cases ps with
  | nil => cases h
  | cons p ps =>
    cases h
    rfl

theorem work_delivered {x y : Transfer} {limit : Nat} (h : x.delivered? limit = some y) :
    y.work < x.work := by
  rw [work_start h]
  unfold work
  cases rest : (x.piece.splitChunk limit).2 with
  | none =>
    simp only [Option.toList_none, List.nil_append]
    unfold ByteRange.size
    omega
  | some r =>
    have := ByteRange.size_splitChunk_rest rest
    simp only [Option.toList_some, List.cons_append, List.nil_append, sumOver_cons]
    omega

end Transfer

namespace Fill

def workOf (xs : List (Nat × Transfer)) : Nat := sumOver (fun x => x.2.work) xs

def work (f : Fill) : Nat := workOf f.active + workOf f.waiting

theorem workOf_eraseP {xs : List (Nat × Transfer)} {number : Nat} {x : Transfer}
    (h : xs.lookup number = some x) :
    workOf (xs.eraseP (·.1 == number)) + x.work = workOf xs := by
  induction xs with
  | nil => cases h
  | cons y ys ih =>
    obtain ⟨n, y⟩ := y
    by_cases same : n = number
    · subst same
      simp only [List.lookup_cons, BEq.rfl, Option.some.injEq] at h
      subst h
      simp only [List.eraseP_cons, BEq.rfl, cond_true, workOf, sumOver_cons]
      omega
    · have differs : (number == n) = false := by simpa using fun e => same e.symm
      have differs' : (n == number) = false := by simpa using same
      simp only [List.lookup_cons, differs] at h
      have := ih h
      simp only [List.eraseP_cons, differs', cond_false, workOf, sumOver_cons] at this ⊢
      omega

theorem work_release {f : Fill} {number : Nat} {x : Transfer} (h : f.at? number = some x) :
    (f.release number).work < f.work := by
  have erased := workOf_eraseP h
  have pos := x.work_pos
  unfold release
  cases w : f.waiting with
  | nil =>
    simp only [work, others, w]
    omega
  | cons next waiting =>
    simp only [work, others, w]
    simp only [workOf, sumOver_append, sumOver_cons, sumOver_nil] at erased ⊢
    omega

theorem work_deliver {f : Fill} {number limit : Nat} {x : Transfer} (h : f.at? number = some x) :
    (f.deliver number limit).work < f.work := by
  unfold deliver
  simp only [h]
  cases next : x.delivered? limit with
  | none => exact work_release h
  | some y =>
    have erased := workOf_eraseP h
    have less := Transfer.work_delivered next
    simp only [work, others]
    simp only [workOf, sumOver_cons] at erased ⊢
    omega

theorem work_refuse {f : Fill} {number : Nat} {x : Transfer} (h : f.at? number = some x) :
    (f.refuse number).work < f.work := by
  unfold refuse
  simp only [h]
  exact work_release (f := { f with undelivered := f.undelivered ++ x.remaining }) h

theorem work_abandon {f : Fill} {number : Nat} {x : Transfer} (h : f.at? number = some x)
    (cause : Files.FileError) : (f.abandon number cause).work < f.work :=
  work_release (f := { f with failed := f.failed.or (some cause) }) h

end Fill

namespace Download

/-- How far a stage is from the end: by rounds, then by what is still to come in the round. -/
def rank (d : Download) : Stage → Nat × Nat
  | .probing => (2 * d.rounds + 3, 0)
  | .whole _ others => (0, others.length + 1)
  | .filling _ round fill => (2 * (d.rounds - round) + 1, fill.work)
  | .probingAgain _ round _ => (2 * (d.rounds - round) + 2, 0)
  | .ended _ => (0, 0)

theorem rank_settle {d : Download} {t t' : Files.Tree} {part : Files.Location} {round : Nat}
    {fill : Fill} {stage : Stage} (h : d.settle t part round fill = .ok (t', stage)) :
    d.rank stage = (2 * (d.rounds - round) + 1, fill.work) ∨
      (d.rank stage).1 < 2 * (d.rounds - round) + 1 := by
  unfold settle at h
  split at h
  · split at h
    · cases h
      exact .inr (Nat.succ_pos _)
    · split at h
      · unfold complete at h
        split at h <;> (cases h; exact .inr (Nat.succ_pos _))
      · split at h
        · cases h
          exact .inr (Nat.succ_pos _)
        · cases h
          right
          simp only [rank]
          omega
  · cases h
    exact .inl rfl

theorem rank_beginRound {d : Download} {t t' : Files.Tree} {part : Files.Location} {round : Nat}
    {pending : List ByteRange} {contacts : List Peer} {stage : Stage}
    (h : d.beginRound t part round pending contacts = .ok (t', stage)) :
    (d.rank stage).1 ≤ 2 * (d.rounds - round) + 1 := by
  unfold beginRound at h
  cases pieces : Partition.partition pending contacts.length d.chunkSize with
  | error f =>
    rw [pieces] at h
    cases h
  | ok pieces' =>
    rw [pieces] at h
    rcases rank_settle h with same | less
    · exact Nat.le_of_eq (congrArg Prod.fst same)
    · exact Nat.le_of_lt less

theorem rank_askWhole {d : Download} {t t' : Files.Tree} {contacts : List Peer} {stage : Stage}
    (h : d.askWhole t contacts = .ok (t', stage)) :
    (d.rank stage).1 = 0 ∧ (d.rank stage).2 ≤ contacts.length := by
  cases contacts with
  | nil =>
    cases h
    exact ⟨rfl, Nat.le_refl 0⟩
  | cons c cs =>
    cases h
    exact ⟨rfl, Nat.le_refl _⟩

theorem rank_proceed {d : Download} {t t' : Files.Tree} {contacts : List Peer} {stage : Stage}
    (h : d.proceed t contacts = .ok (t', stage)) : (d.rank stage).1 < 2 * d.rounds + 3 := by
  unfold proceed at h
  split at h
  · cases h
    exact Nat.succ_pos _
  · split at h
    · rw [(rank_askWhole h).1]
      omega
    · split at h
      · cases h
        exact Nat.succ_pos _
      · split at h
        · cases h
          exact Nat.succ_pos _
        · have := rank_beginRound h
          omega

theorem rank_takeWhole {d : Download} {t t' : Files.Tree} {others : List Peer}
    {answer : Option (FileStatus × Bytes)} {stage : Stage}
    (h : d.takeWhole t others answer = .ok (t', stage)) :
    (d.rank stage).1 = 0 ∧ (d.rank stage).2 ≤ others.length := by
  unfold takeWhole at h
  split at h
  · exact rank_askWhole h
  · split at h <;> (cases h; exact ⟨rfl, Nat.zero_le _⟩)

theorem rank_takeChunk {d : Download} {t t' : Files.Tree} {part : Files.Location} {round : Nat}
    {fill : Fill} {number : Nat} {x : Transfer} {answer : Option (FileStatus × Bytes)} {stage : Stage}
    (found : fill.at? number = some x)
    (h : d.takeChunk t part round fill number answer = .ok (t', stage)) :
    d.rank stage = (2 * (d.rounds - round) + 1, (d.rank stage).2) ∧ (d.rank stage).2 < fill.work ∨
      (d.rank stage).1 < 2 * (d.rounds - round) + 1 := by
  unfold takeChunk at h
  simp only [found] at h
  split at h
  · split at h
    · rcases rank_settle h with same | less
      · left
        rw [same]
        exact ⟨rfl, Fill.work_deliver found⟩
      · exact .inr less
    · rcases rank_settle h with same | less
      · left
        rw [same]
        exact ⟨rfl, Fill.work_abandon found _⟩
      · exact .inr less
  · rcases rank_settle h with same | less
    · left
      rw [same]
      exact ⟨rfl, Fill.work_refuse found⟩
    · exact .inr less

/-- Whether a stage waits for an event. Of chunks, only those of transfers under way. -/
def Stage.awaits : Stage → Event → Bool
  | .probing, .probed _ => true
  | .whole .., .chunk _ _ => true
  | .filling _ _ fill, .chunk number _ => (fill.at? number).isSome
  | .probingAgain .., .probed _ => true
  | _, _ => false

theorem rank_step {d : Download} {t t' : Files.Tree} {stage next : Stage} {event : Event}
    (awaited : stage.awaits event = true) (h : d.step t stage event = .ok (t', next)) :
    Prod.Lex (· < ·) (· < ·) (d.rank next) (d.rank stage) := by
  rw [Prod.lex_def]
  cases stage with
  | probing =>
    cases event with
    | probed contacts => exact .inl (rank_proceed h)
    | chunk => cases awaited
    | cancel => cases awaited
  | whole contact others =>
    cases event with
    | probed => cases awaited
    | chunk number answer =>
      obtain ⟨zero, le⟩ := rank_takeWhole h
      exact .inr ⟨zero, Nat.lt_succ_of_le le⟩
    | cancel => cases awaited
  | filling part round fill =>
    cases event with
    | probed => cases awaited
    | chunk number answer =>
      obtain ⟨x, found⟩ := Option.isSome_iff_exists.1 awaited
      rcases rank_takeChunk found h with ⟨same, less⟩ | less
      · exact .inr ⟨by rw [same]; rfl, less⟩
      · exact .inl less
    | cancel => cases awaited
  | probingAgain part round pending =>
    cases event with
    | probed contacts =>
      left
      simp only [step] at h
      split at h
      · cases h
        exact Nat.succ_pos _
      · exact Nat.lt_succ_of_le (rank_beginRound h)
    | chunk => cases awaited
    | cancel => cases awaited
  | ended => cases event <;> cases awaited

/-- What is left to do when the download is given up at a stage. -/
def dropAt (d : Download) (stage : Stage) (site : Site) : Site :=
  match d.step site.files stage .cancel with
  | .ok (files, _) => { site with files }
  | .error _ => site

def chunkCall (d : Download) (asked : Nat × Peer × ByteRange) : Nat × Call :=
  (asked.1, ⟨.contact asked.2.1, .download d.request.query asked.2.2⟩)

/-- Go on from a stage. Chunks are on their way from the transfers in `out`. A chunk of no transfer
under way is never asked for and would end the download. -/
def follow (d : Download) (stage : Stage) (out : List Nat) :
    Plan (Except DownloadError String) :=
  let event (e : Event) (out : List Nat) : Plan (Except DownloadError String) :=
    .look fun site =>
      match h : d.step site.files stage e with
      | .error fault => .broken fault
      | .ok (files, next) =>
        if awaited : stage.awaits e = true then
          have := rank_step awaited h
          .change (fun site => { site with files }) (d.follow next out)
        else .done (.error .cancelled)
  match stage with
  | .ended result => .done result
  | .probing | .probingAgain .. =>
    (Plan.onDrop (d.dropAt stage)
      (probe d.request.query d.request.size d.request.version d.width)).bind fun contacts =>
        event (.probed contacts) []
  | .whole .. | .filling .. =>
    let asked := d.asked stage
    let calls := (asked.filter fun a => !out.contains a.1).map d.chunkCall
    .await .departure calls (d.dropAt stage) fun number outcome =>
      event (.chunk number outcome.chunk?) ((asked.map (·.1)).erase number)
termination_by d.rank stage
decreasing_by assumption

/-- Download the file. Tells where it was saved. If the plan is given up, no file is left. -/
def plan (d : Download) : Plan (Except DownloadError String) :=
  .look fun site => d.follow (d.start site.files) []

end Download
end LocalSwarm
