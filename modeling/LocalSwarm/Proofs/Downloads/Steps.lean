import LocalSwarm.Download.Plan
import LocalSwarm.Proofs.Trees

/-! All that a step of a download can do. An awaited event makes one of the turns of `Turn`, and a
round that goes on or is over is settled in one of the ways of `Settled`. Invariants of downloads are
proved turn by turn. -/
namespace LocalSwarm.Download

def size (d : Download) : Nat := d.request.size.toNat

/-- What becomes of a round: it goes on, it fails as a chunk could not be written, the file is saved
or cannot be, or something is missing and no round is left or another probe follows. -/
inductive Settled (d : Download) (t : Files.Tree) (part : Files.Location) (round : Nat)
    (fill : Fill) : Files.Tree → Stage → Prop where
  | goesOn : fill.isOver = false → Settled d t part round fill t (.filling part round fill)
  | failed {cause : Files.FileError} : fill.isOver = true → fill.failed = some cause →
      Settled d t part round fill (t.erase part) (.ended (.error (.file cause)))
  | saved {t' : Files.Tree} : fill.isOver = true → fill.failed = none → fill.pending = [] →
      t.persist part d.request.destination = .ok t' →
      Settled d t part round fill t' (.ended (.ok d.request.destination))
  | unsaved {e : Files.FileError} : fill.isOver = true → fill.failed = none → fill.pending = [] →
      t.persist part d.request.destination = .error e →
      Settled d t part round fill (t.erase part) (.ended (.error (.file e)))
  | givenUp : fill.isOver = true → fill.failed = none → fill.pending ≠ [] → d.rounds ≤ round →
      Settled d t part round fill (t.erase part)
        (.ended (.error (.incomplete (missing fill.pending))))
  | again : fill.isOver = true → fill.failed = none → fill.pending ≠ [] → round < d.rounds →
      Settled d t part round fill t (.probingAgain part (round + 1) fill.pending)

theorem settled_of_settle {d : Download} {t t' : Files.Tree} {part : Files.Location} {round : Nat}
    {fill : Fill} {next : Stage} (h : d.settle t part round fill = .ok (t', next)) :
    Settled d t part round fill t' next := by
  unfold settle at h
  split at h
  · next ends =>
    split at h
    · next failed =>
      cases h
      exact .failed ends failed
    · next unfailed =>
      split at h
      · next none =>
        unfold complete at h
        split at h
        · next done =>
          cases h
          exact .saved ends unfailed none done
        · next refused =>
          cases h
          exact .unsaved ends unfailed none refused
      · next some =>
        split at h
        · next last =>
          cases h
          exact .givenUp ends unfailed some last
        · next more =>
          cases h
          exact .again ends unfailed some (Nat.not_le.1 more)
  · next more =>
    cases h
    exact .goesOn (Bool.eq_false_iff.2 more)

theorem settle_isOk (d : Download) (t : Files.Tree) (part : Files.Location) (round : Nat)
    (fill : Fill) : ∃ next, d.settle t part round fill = .ok next := by
  unfold settle complete
  split
  · split
    · exact ⟨_, rfl⟩
    · split
      · split <;> exact ⟨_, rfl⟩
      · split <;> exact ⟨_, rfl⟩
  · exact ⟨_, rfl⟩

/-- What an awaited event makes of a download. -/
inductive Turn (d : Download) (t : Files.Tree) : Stage → Event → Files.Tree → Stage → Prop where
  | notFound : Turn d t .probing (.probed []) t (.ended (.error .notFound))
  | asksWhole {contact : Peer} {others : List Peer} : d.size ≤ d.chunkSize →
      Turn d t .probing (.probed (contact :: others)) t (.whole contact others)
  | blocked {contacts : List Peer} {e : Files.FileError} : d.chunkSize < d.size →
      t.create d.partPath (.part (.blank d.size)) = .error e →
      Turn d t .probing (.probed contacts) t (.ended (.error (.file e)))
  | unfit {contacts : List Peer} {t₁ : Files.Tree} {part : Files.Location}
      {cause : Files.FileError} :
      d.chunkSize < d.size → t.create d.partPath (.part (.blank d.size)) = .ok (t₁, part) →
      d.unfit t₁ = some cause → Turn d t .probing (.probed contacts) (t₁.erase part)
        (.ended (.error (.file cause)))
  | begins {contacts : List Peer} {t₁ t' : Files.Tree} {part : Files.Location}
      {pieces : List (List ByteRange)} {next : Stage} : contacts ≠ [] → d.chunkSize < d.size →
      t.create d.partPath (.part (.blank d.size)) = .ok (t₁, part) → d.unfit t₁ = none →
      Partition.partition [d.all] contacts.length d.chunkSize = .ok pieces →
      Settled d t₁ part 0 (Fill.start contacts pieces d.width) t' next →
      Turn d t .probing (.probed contacts) t' next
  | exhausted {part : Files.Location} {round : Nat} {pending : List ByteRange} :
      Turn d t (.probingAgain part round pending) (.probed []) (t.erase part)
        (.ended (.error (.incomplete (missing pending))))
  | resumes {part : Files.Location} {round : Nat} {pending : List ByteRange} {contacts : List Peer}
      {t' : Files.Tree} {pieces : List (List ByteRange)} {next : Stage} : contacts ≠ [] →
      Partition.partition pending contacts.length d.chunkSize = .ok pieces →
      Settled d t part round (Fill.start contacts pieces d.width) t' next →
      Turn d t (.probingAgain part round pending) (.probed contacts) t' next
  | saved {contact : Peer} {others : List Peer} {number : Nat}
      {answer : Option (FileStatus × Bytes)} {data : Bytes} {t' : Files.Tree}
      {place : Files.Location} : d.accepted d.all answer = some data →
      t.create d.request.destination (Files.Tree.finished data) = .ok (t', place) →
      t.disk.loses = none →
      Turn d t (.whole contact others) (.chunk number answer) t'
        (.ended (.ok d.request.destination))
  | unsaved {contact : Peer} {others : List Peer} {number : Nat}
      {answer : Option (FileStatus × Bytes)} {data : Bytes} {e : Files.FileError} :
      d.accepted d.all answer = some data →
      t.create d.request.destination (Files.Tree.finished data) = .error e →
      Turn d t (.whole contact others) (.chunk number answer) t (.ended (.error (.file e)))
  | lost {contact : Peer} {others : List Peer} {number : Nat}
      {answer : Option (FileStatus × Bytes)} {data : Bytes} {t₁ : Files.Tree}
      {place : Files.Location} {cause : Files.FileError} : d.accepted d.all answer = some data →
      t.create d.request.destination (Files.Tree.finished data) = .ok (t₁, place) →
      t.disk.loses = some cause →
      Turn d t (.whole contact others) (.chunk number answer) (t₁.erase place)
        (.ended (.error (.file cause)))
  | asksNext {contact other : Peer} {others : List Peer} {number : Nat}
      {answer : Option (FileStatus × Bytes)} : d.accepted d.all answer = none →
      Turn d t (.whole contact (other :: others)) (.chunk number answer) t (.whole other others)
  | nobodyLeft {contact : Peer} {number : Nat} {answer : Option (FileStatus × Bytes)} :
      d.accepted d.all answer = none →
      Turn d t (.whole contact []) (.chunk number answer) t
        (.ended (.error (.incomplete d.size)))
  | delivered {part : Files.Location} {round number : Nat} {fill : Fill} {x : Transfer}
      {answer : Option (FileStatus × Bytes)} {data : Bytes} {t' : Files.Tree} {next : Stage} :
      fill.at? number = some x → d.accepted (x.chunk d.chunkSize) answer = some data →
      t.disk.write = none →
      Settled d (t.writePart part (x.chunk d.chunkSize).start data) part round
        (fill.deliver number d.chunkSize) t' next →
      Turn d t (.filling part round fill) (.chunk number answer) t' next
  | abandoned {part : Files.Location} {round number through : Nat} {fill : Fill} {x : Transfer}
      {answer : Option (FileStatus × Bytes)} {data : Bytes} {cause : Files.FileError}
      {t' : Files.Tree} {next : Stage} :
      fill.at? number = some x → d.accepted (x.chunk d.chunkSize) answer = some data →
      t.disk.write = some (cause, through) →
      Settled d (t.writePart part (x.chunk d.chunkSize).start (data.take through)) part round
        (fill.abandon number cause) t' next →
      Turn d t (.filling part round fill) (.chunk number answer) t' next
  | refused {part : Files.Location} {round number : Nat} {fill : Fill} {x : Transfer}
      {answer : Option (FileStatus × Bytes)} {t' : Files.Tree} {next : Stage} :
      fill.at? number = some x → d.accepted (x.chunk d.chunkSize) answer = none →
      Settled d t part round (fill.refuse number) t' next →
      Turn d t (.filling part round fill) (.chunk number answer) t' next

theorem settled_of_beginRound {d : Download} {t t' : Files.Tree} {part : Files.Location}
    {round : Nat} {pending : List ByteRange} {contacts : List Peer} {next : Stage}
    (h : d.beginRound t part round pending contacts = .ok (t', next)) :
    ∃ pieces, Partition.partition pending contacts.length d.chunkSize = .ok pieces ∧
      Settled d t part round (Fill.start contacts pieces d.width) t' next := by
  unfold beginRound at h
  cases parted : Partition.partition pending contacts.length d.chunkSize with
  | error fault =>
    rw [parted] at h
    cases h
  | ok pieces =>
    rw [parted] at h
    exact ⟨pieces, rfl, settled_of_settle h⟩

theorem turn_of_proceed {d : Download} {t t' : Files.Tree} {contacts : List Peer} {next : Stage}
    (h : d.proceed t contacts = .ok (t', next)) :
    Turn d t .probing (.probed contacts) t' next := by
  unfold proceed at h
  cases contacts with
  | nil =>
    cases h
    exact .notFound
  | cons contact others =>
    rw [if_neg (by simp)] at h
    split at h
    · next small =>
      cases h
      exact .asksWhole small
    · next large =>
      split at h
      · next failed =>
        cases h
        exact .blocked (Nat.not_le.1 large) failed
      · next made =>
        split at h
        · next unfit =>
          cases h
          exact .unfit (Nat.not_le.1 large) made unfit
        · next fits =>
          obtain ⟨pieces, parted, settled⟩ := settled_of_beginRound h
          exact .begins (List.cons_ne_nil _ _) (Nat.not_le.1 large) made fits parted settled

theorem turn_of_takeWhole {d : Download} {t t' : Files.Tree} {contact : Peer} {others : List Peer}
    {number : Nat} {answer : Option (FileStatus × Bytes)} {next : Stage}
    (h : d.takeWhole t others answer = .ok (t', next)) :
    Turn d t (.whole contact others) (.chunk number answer) t' next := by
  unfold takeWhole at h
  split at h
  · next refused =>
    cases others with
    | nil =>
      cases h
      exact .nobodyLeft refused
    | cons other others =>
      cases h
      exact .asksNext refused
  · next taken =>
    unfold Files.Tree.save at h
    cases made : t.create d.request.destination (Files.Tree.finished _) with
    | error e =>
      rw [made] at h
      cases h
      exact .unsaved taken made
    | ok entry =>
      obtain ⟨t₁, place⟩ := entry
      rw [made] at h
      cases kept : t.disk.loses with
      | none =>
        rw [kept] at h
        cases h
        exact .saved taken made kept
      | some cause =>
        rw [kept] at h
        cases h
        exact .lost taken made kept

theorem turn_of_takeChunk {d : Download} {t t' : Files.Tree} {part : Files.Location}
    {round number : Nat} {fill : Fill} {x : Transfer} {answer : Option (FileStatus × Bytes)}
    {next : Stage} (found : fill.at? number = some x)
    (h : d.takeChunk t part round fill number answer = .ok (t', next)) :
    Turn d t (.filling part round fill) (.chunk number answer) t' next := by
  unfold takeChunk at h
  simp only [found] at h
  split at h
  · next taken =>
    unfold Files.Tree.write at h
    cases writes : t.disk.write with
    | none =>
      rw [writes] at h
      exact .delivered found taken writes (settled_of_settle h)
    | some refusal =>
      rw [writes] at h
      exact .abandoned found taken writes (settled_of_settle h)
  · next refused => exact .refused found refused (settled_of_settle h)

/-- Every awaited event makes a turn. -/
theorem turn_of_step {d : Download} {t t' : Files.Tree} {stage next : Stage} {event : Event}
    (awaited : stage.awaits event = true) (h : d.step t stage event = .ok (t', next)) :
    Turn d t stage event t' next := by
  cases stage with
  | probing =>
    cases event with
    | probed contacts => exact turn_of_proceed h
    | chunk => cases awaited
    | cancel => cases awaited
  | whole contact others =>
    cases event with
    | probed => cases awaited
    | chunk number answer => exact turn_of_takeWhole h
    | cancel => cases awaited
  | filling part round fill =>
    cases event with
    | probed => cases awaited
    | chunk number answer =>
      obtain ⟨x, found⟩ := Option.isSome_iff_exists.1 awaited
      exact turn_of_takeChunk found h
    | cancel => cases awaited
  | probingAgain part round pending =>
    cases event with
    | probed contacts =>
      cases contacts with
      | nil =>
        cases h
        exact .exhausted
      | cons contact others =>
        obtain ⟨pieces, parted, settled⟩ := settled_of_beginRound h
        exact .resumes (List.cons_ne_nil _ _) parted settled
    | chunk => cases awaited
    | cancel => cases awaited
  | ended => cases event <;> cases awaited

/-- No step changes what the disk refuses. -/
theorem Settled.disk_eq {d : Download} {t t' : Files.Tree} {part : Files.Location} {round : Nat}
    {fill : Fill} {next : Stage} (settled : Settled d t part round fill t' next) :
    t'.disk = t.disk := by
  cases settled with
  | saved _ _ _ done =>
    obtain ⟨-, -, target, p, -, -, rfl⟩ := Files.Tree.persist_ok done
    rfl
  | _ => rfl

theorem Turn.disk_eq {d : Download} {t t' : Files.Tree} {stage next : Stage} {event : Event}
    (turn : Turn d t stage event t' next) : t'.disk = t.disk := by
  cases turn with
  | unfit _ made => exact (Files.Tree.disk_erase _ _).trans (Files.Tree.disk_eq_of_create made)
  | begins _ _ made _ _ settled => exact settled.disk_eq.trans (Files.Tree.disk_eq_of_create made)
  | resumes _ _ settled => exact settled.disk_eq
  | saved _ made => exact Files.Tree.disk_eq_of_create made
  | lost _ made => exact (Files.Tree.disk_erase _ _).trans (Files.Tree.disk_eq_of_create made)
  | delivered _ _ _ settled => exact settled.disk_eq.trans (Files.Tree.disk_writePart _ _ _ _)
  | abandoned _ _ _ settled => exact settled.disk_eq.trans (Files.Tree.disk_writePart _ _ _ _)
  | refused _ _ settled => exact settled.disk_eq
  | _ => rfl

def Stage.part? : Stage → Option Files.Location
  | .filling part _ _ => some part
  | .probingAgain part _ _ => some part
  | _ => none

/-- Whether a download has not ended. -/
def Stage.isOpen : Stage → Bool
  | .ended _ => false
  | _ => true

def Stage.isProbing : Stage → Bool
  | .probing => true
  | .probingAgain .. => true
  | _ => false

theorem Stage.isOpen_of_isProbing {stage : Stage} (h : stage.isProbing = true) :
    stage.isOpen = true := by
  cases stage <;> first | rfl | cases h

/-- Whenever a download is given up, nothing but its part file goes. -/
theorem step_cancel (d : Download) (t : Files.Tree) {stage : Stage} (h : stage.isOpen = true) :
    d.step t stage .cancel =
      .ok (match stage.part? with
        | some part => t.erase part
        | none => t, .ended (.error .cancelled)) := by
  cases stage <;> first | rfl | cases h

end LocalSwarm.Download
