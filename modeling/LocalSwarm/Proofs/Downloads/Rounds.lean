import LocalSwarm.Proofs.Downloads.Tree

/-! Rounds of transfers. What the account of a download says of the rounds, the requests, the part
file, the end of a round and the reported remainder; and that no round breaks for what is missing. -/
namespace LocalSwarm
open ByteRange (cover cover_append)
open Files (Tree)

namespace Download

theorem fresh_of_asked {d : Download} {h : List Happening} {stage : Stage} {slot : Nat} {p : Peer}
    {range : ByteRange} (account : Account d (d.written h) stage)
    (asked : (slot, p, range) ∈ d.asked stage) {o : Nat} (first : range.start ≤ o)
    (last : o ≤ range.stop) : cover (d.written h) o = 0 := by
  cases stage with
  | whole =>
    rw [show d.written h = [] from account]
    rfl
  | filling part round fill =>
    obtain ⟨x, found⟩ := Option.isSome_iff_exists.1 (awaits_chunk asked none)
    obtain ⟨rfl, rfl⟩ := at?_of_asked account.orderly asked found
    have held : 0 < cover [x.chunk d.chunkSize] o :=
      ByteRange.cover_pos_iff.2 ⟨_, List.mem_singleton_self _, first, last⟩
    have left := fill.chunk_le_left found d.chunkSize o
    have most := account.sparse o
    rw [cover_append] at most
    split at most <;> omega
  | probing => cases asked
  | probingAgain => cases asked
  | ended => cases asked

theorem written_once {d : Download} {written : List ByteRange} {stage : Stage}
    (account : Account d written stage) : Sparse d.size written := by
  have nothing : written = [] → Sparse d.size written := by
    rintro rfl
    exact fun o => Nat.zero_le _
  cases stage with
  | probing => exact nothing account
  | whole => exact nothing account
  | filling part round fill => exact account.sparse.of_append
  | probingAgain part round pending => exact account.1.exact.sparse.of_append
  | ended result =>
    cases result with
    | ok path => exact account.exact.sparse.of_append
    | error e =>
      cases e with
      | incomplete n =>
        obtain ⟨pending, left, -⟩ := account
        exact left.exact.sparse.of_append
      | _ => exact account

theorem Course.past_prefix {d : Download} {online : List Peer → Prop} {t₀ t : Files.Tree}
    {h : List Happening} {rounds : List Round} {stage : Stage}
    (course : Course d online t₀ h rounds t stage) : ∀ r ∈ rounds, r.past <+: h := by
  induction course with
  | start =>
    intro r member
    cases member
  | created _ _ _ _ _ ih => exact fun r member => (ih r member).trans (List.prefix_append _ _)
  | elapsed _ _ _ _ ih => exact fun r member => (ih r member).trans (List.prefix_append _ _)
  | disrupted _ _ _ ih => exact fun r member => (ih r member).trans (List.prefix_append _ _)
  | checked _ _ _ _ _ ih => exact fun r member => (ih r member).trans (List.prefix_append _ _)
  | @probed _ _ _ _ _ stage next _ _ _ _ _ _ _ _ ih =>
    intro r member
    rcases List.mem_append.1 member with old | new
    · exact ih r old
    · unfold begun at new
      split at new
      · cases List.mem_singleton.1 new
        exact List.prefix_rfl
      · cases new
  | chunk _ _ _ _ ih => exact fun r member => (ih r member).trans (List.prefix_append _ _)

/-- What the transfers of a download have come to at a stage, and what the tree holds of it. -/
structure Balanced (d : Download) (h : List Happening) (rounds : List Round) (t : Tree)
    (stage : Stage) : Prop where
  /-- Each round has begun with just what was not written by then. -/
  begins : ∀ r ∈ rounds, r.past <+: h ∧ Missing d.size (d.written r.past) r.pending
  few : rounds.length ≤ d.rounds + 1
  once : ∀ o, cover (d.written h) o ≤ if o < d.size then 1 else 0
  /-- The part file of a round is there and holds what was written: just the accepted chunks, at
  their offsets. -/
  part : ∀ place, stage.part? = some place → t.entry? place = some (.part (d.assembled h))
  times : ∀ o, (d.assembled h).times o = cover (d.written h) o
  /-- No offset that was written is in a chunk that is asked for. -/
  fresh : ∀ slot p range, (slot, p, range) ∈ d.asked stage →
    ∀ o, range.start ≤ o → o ≤ range.stop → cover (d.written h) o = 0
  /-- Any answer with which the round is over leaves just what will not have been written. -/
  ends : ∀ part round fill slot p range outcome, stage = .filling part round fill →
    (slot, p, range) ∈ d.asked stage → (d.afterAnswer fill slot outcome.chunk?).isOver = true →
    Missing d.size (d.written (h ++ [d.chunkAnswer slot p range outcome]))
      (d.afterAnswer fill slot outcome.chunk?).pending
  again : ∀ part round pending, stage = .probingAgain part round pending →
    Missing d.size (d.written h) pending
  /-- A file that is saved has every offset written, and has the bytes that were written. -/
  saved : ∀ path, stage = .ended (.ok path) → Missing d.size (d.written h) [] ∧
    ∃ place file, t.lookup path = .ok (place, .file file) ∧ file.content = (d.assembled h).content
  reported : ∀ n, stage = .ended (.error (.incomplete n)) →
    n = unwritten d.size (d.written h) ∧ 1 ≤ n ∧ n ≤ d.size

theorem Course.balanced {d : Download} {online : List Peer → Prop} {t₀ t : Tree}
    {h : List Happening} {rounds : List Round} {stage : Stage} (rooted : t₀.Rooted)
    (writes : Happening.Always (·.write = none) t₀.disk h)
    (course : Course d online t₀ h rounds t stage) : Balanced d h rounds t stage := by
  obtain ⟨account, counted, logged⟩ := course.accounted
  have kept := (course.preserved rooted).kept
  constructor
  case begins => exact fun r member => ⟨course.past_prefix r member, logged r member⟩
  case few =>
    cases stage with
    | probing => exact (show rounds.length = 0 from counted).trans_le (Nat.zero_le _)
    | whole => exact (show rounds.length = 0 from counted).trans_le (Nat.zero_le _)
    | filling part round fill =>
      exact (show rounds.length = round + 1 from counted).trans_le (Nat.succ_le_succ account.within)
    | probingAgain part round pending =>
      exact (show rounds.length = round from counted).trans_le (Nat.le_succ_of_le account.2.2)
    | ended => exact counted
  case once => exact written_once account
  case part =>
    intro place held
    cases stage with
    | filling part round fill =>
      cases held
      exact (course.hosts rooted writes rfl).entryAt_part
    | probingAgain part round pending =>
      cases held
      exact Tree.Hosts.entryAt_part kept
    | probing | whole | ended => cases held
  case times => exact times_assembled (written_once account)
  case fresh =>
    intro slot p range asked o first last
    exact fresh_of_asked account asked first last
  case ends =>
    rintro part round fill slot p range outcome rfl asked ends
    obtain ⟨x, found⟩ := Option.isSome_iff_exists.1 (awaits_chunk asked none)
    obtain ⟨rfl, rfl⟩ := at?_of_asked account.orderly asked found
    refine missing_of_isOver ((account.answered found x.contact outcome).tiles ?_) ends
    rw [failed_afterAnswer]
    exact course.unfailed writes rfl
  case again =>
    rintro part round pending rfl
    exact account.1
  case saved =>
    rintro path rfl
    obtain ⟨rfl, place, file, saved⟩ := kept
    exact ⟨account, place, file, saved.found, saved.holds⟩
  case reported =>
    rintro n rfl
    obtain ⟨pending, left, some, rfl⟩ := account
    rw [missing_eq_unwritten left]
    exact ⟨rfl, unwritten_pos left some, unwritten_le _ _⟩

/-- Whatever peers do, as long as all chunks can be written: unless the request is refused at once, a
run of a download is a course of it that ends with the result of the run, and its transfers account
for every byte of the file. A run may be given up while the download waits for any event, so this is
said of all its stages. -/
theorem transfers_account_for_every_byte {d : Download} {s : Site} {c' : Situation}
    {h : List Happening} {e : Except Cut (Except DownloadError String)} (rooted : s.files.Rooted)
    (writes : Happening.Always (·.write = none) s.files.disk h) (run : Run d.plan ⟨[], s⟩ h c' e) :
    (∃ flaw, d.request.validate s.files = .error flaw ∧ h = [] ∧ e = .ok (.error flaw)) ∨
    ∃ rounds t stage, Course d (fun _ => True) s.files h rounds t stage ∧
      (∀ result, e = .ok result → stage = .ended result ∧ c'.site.files = t) ∧
      Balanced d h rounds t stage := by
  rcases run_plan (fun _ => True) trivial (fun _ _ _ => trivial) run with
    ⟨flaw, refused, nothing, -, ended⟩ | ⟨-, conducted⟩
  · exact .inl ⟨flaw, refused, nothing, ended⟩
  · cases conducted with
    | ended course =>
      refine .inr ⟨_, _, _, course, ?_, course.balanced rooted writes⟩
      intro result same
      cases same
      exact ⟨rfl, rfl⟩
    | dropped course => exact .inr ⟨_, _, _, course, nofun, course.balanced rooted writes⟩
    | broken _ course => exact .inr ⟨_, _, _, course, nofun, course.balanced rooted writes⟩

/-- A download that ends with the file saved, in one piece from what two peers have sent. -/
theorem sample_accounts_for_every_byte :
    ∃ c', Run Sample.download.plan ⟨[], Sample.site⟩ Sample.happenings c' (.ok (.ok "out/f")) ∧
      ∃ rounds : List Round, (∀ r ∈ rounds, Missing 2 (Sample.download.written r.past) r.pending) ∧
        rounds.length ≤ 3 ∧ Missing 2 (Sample.download.written Sample.happenings) [] ∧
        ∃ place file, c'.site.files.lookup "out/f" = .ok (place, .file file) ∧
          file.content = [7, 9] := by
  obtain ⟨c', run⟩ := Sample.run
  rcases transfers_account_for_every_byte sample_rooted (Sample.happenings_undisrupted rfl) run with
    ⟨flaw, -, -, ended⟩ | ⟨rounds, t, stage, -, ended, balanced⟩
  · cases ended
  · obtain ⟨last, rfl⟩ := ended _ rfl
    obtain ⟨all, place, file, found, content⟩ := balanced.saved _ last
    refine ⟨c', run, rounds, fun r member => (balanced.begins r member).2, balanced.few, all, place,
      file, found, ?_⟩
    rw [content]
    decide +kernel

/-- What is missing can be parted among any contacts that there is room for. -/
theorem partition_of_missing {d : Download} {written pending : List ByteRange} {contacts : Nat}
    (left : Missing d.size written pending) (few : contacts ≤ Partition.handLimit) :
    ∃ pieces, Partition.partition pending contacts d.chunkSize = .ok pieces := by
  have below : d.size ≤ ByteRange.limit := Nat.le_of_lt_succ d.request.size.toNat_lt
  refine Partition.partition_isOk few ?_ fun r member => ?_
  · have sum := missing_eq_unwritten left
    rw [missing] at sum
    rw [sum]
    exact (unwritten_le _ _).trans below
  · exact Nat.lt_of_lt_of_le (left.inside r member) below

/-- A probe leads to a fault only if it finds more contacts than there is room for. -/
theorem Course.fault {d : Download} {online : List Peer → Prop} {t₀ t : Files.Tree}
    {h : List Happening} {rounds : List Round} {stage : Stage} {contacts : List Peer} {fault : Fault}
    (course : Course d online t₀ h rounds t stage) (probing : stage.isProbing = true)
    (failed : d.step t stage (.probed contacts) = .error fault) :
    Partition.handLimit < contacts.length := by
  by_contra few
  have round : ∀ {t' part n pending}, Missing d.size (d.written h) pending →
      ∃ next, d.beginRound t' part n pending contacts = .ok next := by
    intro t' part n pending left
    obtain ⟨pieces, parted⟩ := partition_of_missing left (Nat.not_lt.1 few)
    unfold beginRound
    rw [parted]
    exact d.settle_isOk _ _ _ _
  have account := course.accounted.account
  cases stage with
  | probing =>
    have left : Missing d.size (d.written h) [d.all] := by
      rw [show d.written h = [] from account]
      exact missing_all d (size_pos_of_validate course.valid)
    change d.proceed t contacts = _ at failed
    unfold proceed at failed
    split at failed
    · cases failed
    · split at failed
      · unfold askWhole at failed
        split at failed <;> cases failed
      · split at failed
        · cases failed
        · split at failed
          · cases failed
          · obtain ⟨next, begun⟩ := round left
            rw [begun] at failed
            cases failed
  | probingAgain part n pending =>
    change (if _ then _ else _) = _ at failed
    split at failed
    · cases failed
    · obtain ⟨next, begun⟩ := round account.1
      rw [begun] at failed
      cases failed
  | whole => cases probing
  | filling => cases probing
  | ended => cases probing

end Download
end LocalSwarm
