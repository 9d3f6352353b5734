import LocalSwarm.Proofs.Downloads.Course

/-! The account of a download. Whatever the contacts do, the offsets delivered so far and the ranges
still missing are the file, and none of them counts twice; this is what every turn preserves
(`Course.accounted`). A round in which a chunk could not be written leaves ranges out, and ends the
download. -/
namespace LocalSwarm
open ByteRange (cover cover_append cover_perm cover_nil)

namespace Download

/-- Whether the ranges hold every offset of a file of a size once, and nothing beyond it. -/
def Tiles (size : Nat) (rs : List ByteRange) : Prop :=
  ∀ o, cover rs o = if o < size then 1 else 0

/-- No offset is in two of the ranges, and none beyond the end of a file of a size. -/
def Sparse (size : Nat) (rs : List ByteRange) : Prop := ∀ o, cover rs o ≤ if o < size then 1 else 0

theorem Tiles.sparse {size : Nat} {rs : List ByteRange} (t : Tiles size rs) : Sparse size rs :=
  fun o => (t o).le

theorem Sparse.inside {size : Nat} {rs : List ByteRange} (sparse : Sparse size rs) :
    ∀ r ∈ rs, r.stop < size := by
  intro r member
  have held : 0 < cover rs r.stop :=
    ByteRange.cover_pos_iff.2 ⟨r, member, r.start_le_stop, Nat.le_refl _⟩
  have most := sparse r.stop
  split at most
  · assumption
  · omega

theorem Sparse.of_append {size : Nat} {rs qs : List ByteRange} (s : Sparse size (rs ++ qs)) :
    Sparse size rs := fun o => by
  have most := s o
  rw [cover_append] at most
  omega

theorem Tiles.inside {size : Nat} {rs qs : List ByteRange} (t : Tiles size (rs ++ qs)) {r : ByteRange}
    (member : r ∈ qs) : r.stop < size :=
  t.sparse.inside r (List.mem_append_right _ member)

/-- What is missing of a file of a size: ranges in offset order, apart from each other, which hold
just the offsets that were not written. None was written twice. -/
structure Missing (size : Nat) (written pending : List ByteRange) : Prop where
  ordered : pending.Pairwise fun a b => a.stop < b.start
  inside : ∀ r ∈ pending, r.stop < size
  exact : Tiles size (written ++ pending)

/-- How many offsets of a file of a size were not written. -/
def unwritten (size : Nat) (written : List ByteRange) : Nat :=
  ((Finset.range size).filter fun o => cover written o = 0).card

theorem Tiles.le_one {size : Nat} {rs qs : List ByteRange} (t : Tiles size (rs ++ qs)) (o : Nat) :
    cover qs o ≤ 1 := by
  have := t o
  rw [cover_append] at this
  split at this <;> omega

theorem tiles_all (d : Download) (pos : 0 < d.size) : Tiles d.size [d.all] := by
  intro o
  rw [ByteRange.cover_all rfl]
  congr 1
  change (o < d.size - 1 + 1) = (o < d.size)
  rw [Nat.sub_add_cancel pos]

theorem missing_all (d : Download) (pos : 0 < d.size) : Missing d.size [] [d.all] where
  ordered := List.pairwise_singleton _ _
  inside := fun _ member =>
    (show Tiles d.size ([] ++ [d.all]) from tiles_all d pos).inside member
  exact := tiles_all d pos

theorem missing_nil {d : Download} {rs : List ByteRange} (t : Tiles d.size rs) :
    Missing d.size rs [] where
  ordered := .nil
  inside := fun _ member => absurd member List.not_mem_nil
  exact := by rwa [List.append_nil]

/-- The order of ranges that are apart is the order of their offsets. -/
theorem ordered_pending (fill : Fill) (once : ∀ o, cover fill.undelivered o ≤ 1) :
    fill.pending.Pairwise fun a b => a.stop < b.start := by
  have sorted : fill.pending.Pairwise fun a b => Fill.rangeBefore a b = true := by
    refine List.pairwise_mergeSort ?_ ?_ fill.undelivered
    · intro a b c
      simp only [Fill.rangeBefore, Bool.or_eq_true, Bool.and_eq_true, decide_eq_true_eq]
      omega
    · intro a b
      simp only [Fill.rangeBefore, Bool.or_eq_true, Bool.and_eq_true, decide_eq_true_eq]
      omega
  have apart : fill.pending.Pairwise ByteRange.Apart := by
    refine ByteRange.apart_of_cover fun o => ?_
    rw [cover_perm fill.pending_perm]
    exact once o
  refine (sorted.and apart).imp ?_
  rintro a b ⟨before, away⟩
  simp only [Fill.rangeBefore, Bool.or_eq_true, Bool.and_eq_true, decide_eq_true_eq] at before
  unfold ByteRange.Apart at away
  have := a.start_le_stop
  have := b.start_le_stop
  omega

theorem missing_of_isOver {size : Nat} {written : List ByteRange} {fill : Fill}
    (t : Tiles size (written ++ fill.left)) (ends : fill.isOver = true) :
    Missing size written fill.pending := by
  rw [Fill.left_of_isOver ends] at t
  refine ⟨ordered_pending fill t.le_one, ?_, ?_⟩
  · intro r member
    exact t.inside (fill.pending_perm.mem_iff.1 member)
  · intro o
    rw [← t o, cover_append, cover_append, cover_perm fill.pending_perm]

theorem missing_eq_unwritten {d : Download} {written pending : List ByteRange}
    (m : Missing d.size written pending) : missing pending = unwritten d.size written := by
  have low : d.size ≤ ByteRange.limit := Nat.le_of_lt_succ d.request.size.toNat_lt
  rw [missing, ByteRange.sum_length_eq fun r member => (m.inside r member).trans_le low, ← ByteRange.sum_cover m.inside, unwritten, Finset.card_filter]
  refine Finset.sum_congr rfl fun o member => ?_
  have exact := m.exact o
  rw [cover_append, if_pos (Finset.mem_range.1 member)] at exact
  split <;> omega

theorem unwritten_pos {d : Download} {written pending : List ByteRange}
    (m : Missing d.size written pending) (some : pending ≠ []) : 0 < unwritten d.size written := by
  obtain ⟨r, member⟩ := List.exists_mem_of_ne_nil pending some
  have held : 0 < cover pending r.start :=
    ByteRange.cover_pos_iff.2 ⟨r, member, Nat.le_refl _, r.start_le_stop⟩
  refine Finset.card_pos.2 ⟨r.start, Finset.mem_filter.2 ⟨?_, ?_⟩⟩
  · exact Finset.mem_range.2 (Nat.lt_of_le_of_lt r.start_le_stop (m.inside r member))
  · have := m.exact r.start
    rw [cover_append] at this
    split at this <;> omega

theorem unwritten_le (size : Nat) (written : List ByteRange) : unwritten size written ≤ size := by
  refine (Finset.card_filter_le _ _).trans ?_
  rw [Finset.card_range]

theorem unwritten_nil (size : Nat) : unwritten size [] = size := by
  rw [unwritten, Finset.filter_true_of_mem fun o _ => cover_nil o, Finset.card_range]

/-- What stands of a round of transfers. As long as no transfer has failed, the round has left all
that was not written. -/
structure Stands (d : Download) (written : List ByteRange) (round : Nat) (fill : Fill) : Prop where
  orderly : fill.Orderly
  within : round ≤ d.rounds
  sparse : Sparse d.size (written ++ fill.left)
  tiles : fill.failed = none → Tiles d.size (written ++ fill.left)

def Account (d : Download) (written : List ByteRange) : Stage → Prop
  | .probing => written = []
  | .whole .. => written = []
  | .filling _ round fill => Stands d written round fill
  | .probingAgain _ round pending =>
    Missing d.size written pending ∧ pending ≠ [] ∧ round ≤ d.rounds
  | .ended (.ok _) => Missing d.size written []
  | .ended (.error (.incomplete n)) =>
    ∃ pending, Missing d.size written pending ∧ pending ≠ [] ∧ n = missing pending
  | .ended (.error _) => Sparse d.size written

/-- How many rounds have begun at a stage. -/
def Counted (d : Download) (rounds : Nat) : Stage → Prop
  | .probing => rounds = 0
  | .whole .. => rounds = 0
  | .filling _ round _ => rounds = round + 1
  | .probingAgain _ round _ => rounds = round
  | .ended _ => rounds ≤ d.rounds + 1

theorem account_settled {d : Download} {t t' : Files.Tree} {part : Files.Location} {round : Nat}
    {fill : Fill} {next : Stage} {written : List ByteRange}
    (settled : Settled d t part round fill t' next) (stands : Stands d written round fill) :
    Account d written next ∧ Counted d (round + 1) next := by
  have last := Nat.succ_le_succ stands.within
  cases settled with
  | goesOn => exact ⟨stands, rfl⟩
  | failed => exact ⟨stands.sparse.of_append, last⟩
  | saved ends unfailed none =>
    have left := missing_of_isOver (stands.tiles unfailed) ends
    rw [none] at left
    exact ⟨left, last⟩
  | unsaved => exact ⟨stands.sparse.of_append, last⟩
  | givenUp ends unfailed some =>
    exact ⟨⟨_, missing_of_isOver (stands.tiles unfailed) ends, some, rfl⟩, last⟩
  | again ends unfailed some more =>
    exact ⟨⟨missing_of_isOver (stands.tiles unfailed) ends, some, more⟩, rfl⟩

namespace Stands

variable {d : Download} {written : List ByteRange} {round : Nat} {fill : Fill} {number : Nat}
  {x : Transfer}

theorem start {pending : List ByteRange} {contacts : List Peer} {pieces : List (List ByteRange)}
    (left : Missing d.size written pending) (within : round ≤ d.rounds)
    (same : ∀ o, cover (Fill.start contacts pieces d.width).left o = cover pending o) :
    Stands d written round (Fill.start contacts pieces d.width) := by
  have tiles : Tiles d.size (written ++ (Fill.start contacts pieces d.width).left) := fun o => by
    rw [cover_append, same, ← cover_append]
    exact left.exact o
  exact ⟨Fill.orderly_start _ _ _, within, tiles.sparse, fun _ => tiles⟩

theorem delivered (s : Stands d written round fill) (found : fill.at? number = some x) :
    Stands d (written ++ [x.chunk d.chunkSize]) round (fill.deliver number d.chunkSize) := by
  have same : ∀ o, cover (written ++ [x.chunk d.chunkSize] ++
      (fill.deliver number d.chunkSize).left) o = cover (written ++ fill.left) o := fun o => by
    rw [cover_append, cover_append, Nat.add_assoc, ← Fill.cover_left_deliver found, ← cover_append]
  refine ⟨s.orderly.deliver found _, s.within, fun o => (same o).trans_le (s.sparse o), ?_⟩
  intro unfailed o
  rw [Fill.failed_deliver] at unfailed
  exact (same o).trans (s.tiles unfailed o)

theorem refused (s : Stands d written round fill) (found : fill.at? number = some x) :
    Stands d written round (fill.refuse number) := by
  have same : ∀ o, cover (written ++ (fill.refuse number).left) o =
      cover (written ++ fill.left) o := fun o => by
    rw [cover_append, Fill.cover_left_refuse found, ← cover_append]
  refine ⟨s.orderly.refuse found, s.within, fun o => (same o).trans_le (s.sparse o), ?_⟩
  intro unfailed o
  rw [Fill.failed_refuse] at unfailed
  exact (same o).trans (s.tiles unfailed o)

/-- A chunk that cannot be written counts as delivered, and the round has failed. -/
theorem abandoned (s : Stands d written round fill) (found : fill.at? number = some x)
    (cause : Files.FileError) :
    Stands d (written ++ [x.chunk d.chunkSize]) round (fill.abandon number cause) := by
  refine ⟨s.orderly.abandon found cause, s.within, fun o => (Nat.le_trans ?_ (s.sparse o)), ?_⟩
  · have chunk := Fill.chunk_le_remaining x d.chunkSize o
    rw [cover_append, cover_append, cover_append, Fill.cover_left_abandon found cause]
    omega
  · exact fun unfailed => absurd unfailed (Fill.failed_abandon_ne_none _ _ _)

end Stands

/-- A round of transfers after an answer to the request for a chunk that can be written. -/
def afterAnswer (d : Download) (fill : Fill) (slot : Nat)
    (answer : Option (FileStatus × Bytes)) : Fill :=
  match fill.at? slot with
  | none => fill
  | some x =>
    match d.accepted (x.chunk d.chunkSize) answer with
    | some _ => fill.deliver slot d.chunkSize
    | none => fill.refuse slot

theorem failed_afterAnswer (d : Download) (fill : Fill) (slot : Nat)
    (answer : Option (FileStatus × Bytes)) :
    (d.afterAnswer fill slot answer).failed = fill.failed := by
  unfold afterAnswer
  split
  · rfl
  · split
    · exact fill.failed_deliver _ _
    · exact fill.failed_refuse _

theorem Stands.answered {d : Download} {round : Nat} {fill : Fill} {slot : Nat} {x : Transfer}
    {h : List Happening} (s : Stands d (d.written h) round fill) (found : fill.at? slot = some x)
    (p : Peer) (outcome : Outcome) :
    Stands d (d.written (h ++ [d.chunkAnswer slot p (x.chunk d.chunkSize) outcome])) round
      (d.afterAnswer fill slot outcome.chunk?) := by
  simp only [afterAnswer, found]
  cases taken : d.accepted (x.chunk d.chunkSize) outcome.chunk? with
  | some data =>
    rw [written_accepted taken]
    exact s.delivered found
  | none =>
    rw [written_of_deliveries (deliveries_refused taken h slot p)]
    exact s.refused found

theorem afterAnswer_accepted {d : Download} {fill : Fill} {slot : Nat} {x : Transfer}
    {answer : Option (FileStatus × Bytes)} {data : Bytes} (found : fill.at? slot = some x)
    (taken : d.accepted (x.chunk d.chunkSize) answer = some data) :
    d.afterAnswer fill slot answer = fill.deliver slot d.chunkSize := by
  simp only [afterAnswer, found, taken]

theorem afterAnswer_refused {d : Download} {fill : Fill} {slot : Nat} {x : Transfer}
    {answer : Option (FileStatus × Bytes)} (found : fill.at? slot = some x)
    (refused : d.accepted (x.chunk d.chunkSize) answer = none) :
    d.afterAnswer fill slot answer = fill.refuse slot := by
  simp only [afterAnswer, found, refused]

structure Accounted (d : Download) (h : List Happening) (rounds : List Round) (stage : Stage) :
    Prop where
  account : Account d (d.written h) stage
  counted : Counted d rounds.length stage
  logged : ∀ r ∈ rounds, Missing d.size (d.written r.past) r.pending

theorem Accounted.congr {d : Download} {h k : List Happening} {rounds : List Round} {stage : Stage}
    (a : Accounted d h rounds stage) (same : d.deliveries k = d.deliveries h) :
    Accounted d k rounds stage := by
  refine ⟨?_, a.counted, a.logged⟩
  rw [written_of_deliveries same]
  exact a.account

theorem begun_ended (d : Download) (past : List Happening) (stage : Stage)
    (result : Except DownloadError String) : d.begun past stage (.ended result) = [] := rfl

theorem accounted_start {d : Download} {t t' : Files.Tree} {part : Files.Location} {h : List Happening}
    {rounds : List Round} {stage next : Stage} {pending : List ByteRange} {contacts : List Peer}
    {pieces : List (List ByteRange)} (some : pending ≠ []) (present : contacts ≠ [])
    (parted : Partition.partition pending contacts.length d.chunkSize = .ok pieces)
    (settled : Settled d t part rounds.length (Fill.start contacts pieces d.width) t' next)
    (left : Missing d.size (d.written h) pending) (within : rounds.length ≤ d.rounds)
    (what : d.toPart stage = pending)
    (logged : ∀ r ∈ rounds, Missing d.size (d.written r.past) r.pending) :
    Accounted d h (rounds ++ d.begun h stage next) next := by
  obtain ⟨-, rfl, same⟩ := settled_start some present parted settled
  refine ⟨.start left within same, ?_, ?_⟩
  · exact List.length_append
  · intro r member
    rcases List.mem_append.1 member with old | new
    · exact logged r old
    · obtain rfl := List.mem_singleton.1 new
      rw [what]
      exact left

/-- A download that ends before any round has everything still before it. -/
theorem accounted_unbegun {d : Download} {h : List Happening} {rounds : List Round}
    {stage : Stage} (nothing : d.written h = []) (none : rounds.length = 0)
    (logged : ∀ r ∈ rounds, Missing d.size (d.written r.past) r.pending)
    (result : Except DownloadError String)
    (other : Account d (d.written h) (.ended result) = Sparse d.size (d.written h)) :
    Accounted d h (rounds ++ d.begun h stage (.ended result)) (.ended result) := by
  rw [begun_ended, List.append_nil]
  refine ⟨?_, none.trans_le (Nat.zero_le _), logged⟩
  rw [other, nothing]
  exact fun o => (cover_nil o).trans_le (Nat.zero_le _)

theorem accounted_answer {d : Download} {t t' : Files.Tree} {part : Files.Location} {round : Nat}
    {fill : Fill} {h : List Happening} {rounds : List Round} {next : Stage}
    (count : rounds.length = round + 1)
    (logged : ∀ r ∈ rounds, Missing d.size (d.written r.past) r.pending)
    (stands : Stands d (d.written h) round fill) (settled : Settled d t part round fill t' next) :
    Accounted d h rounds next := by
  obtain ⟨account, counted⟩ := account_settled settled stands
  exact ⟨account, count ▸ counted, logged⟩

theorem Course.accounted {d : Download} {online : List Peer → Prop} {t₀ t : Files.Tree}
    {h : List Happening} {rounds : List Round} {stage : Stage}
    (course : Course d online t₀ h rounds t stage) : Accounted d h rounds stage := by
  have pos := size_pos_of_validate course.valid
  induction course with
  | start => exact ⟨rfl, rfl, fun _ member => absurd member List.not_mem_nil⟩
  | created entry _ _ _ _ ih => exact ih.congr (deliveries_created d _ _ entry)
  | elapsed node now _ _ ih => exact ih.congr (deliveries_elapsed d _ node now)
  | disrupted disk _ _ ih => exact ih.congr (deliveries_disrupted d _ disk)
  | checked slot p outcome _ _ ih => exact ih.congr (deliveries_checkAnswer d _ slot p outcome)
  | @probed older checks rounds t t' stage next candidates contacts _ probing _ _ _ step ih =>
    obtain ⟨account, counted, logged⟩ := ih
    cases turn_of_step (awaits_probed probing contacts) step with
    | notFound => exact accounted_unbegun account counted logged _ rfl
    | @asksWhole contact others =>
      have unbegun : d.begun (older ++ checks) .probing (.whole contact others) = [] := rfl
      rw [unbegun, List.append_nil]
      exact ⟨account, counted, logged⟩
    | blocked => exact accounted_unbegun account counted logged _ rfl
    | unfit => exact accounted_unbegun account counted logged _ rfl
    | begins present large made fits parted settled =>
      have none : rounds.length = 0 := counted
      rw [← none] at settled
      refine accounted_start (List.cons_ne_nil _ _) present parted settled ?_ ?_ rfl logged
      · rw [show d.written (older ++ checks) = [] from account]
        exact missing_all d pos
      · rw [none]
        exact Nat.zero_le _
    | @exhausted part round pending =>
      obtain ⟨left, some, within⟩ := account
      rw [begun_ended, List.append_nil]
      exact ⟨⟨pending, left, some, rfl⟩, counted.trans_le (Nat.le_succ_of_le within), logged⟩
    | @resumes part round pending contacts t' pieces next present parted settled =>
      obtain ⟨left, some, within⟩ := account
      have count : rounds.length = round := counted
      rw [← count] at settled within
      exact accounted_start some present parted settled left within rfl logged
  | @chunk h rounds t t' stage next slot p range outcome _ asked step ih =>
    obtain ⟨account, counted, logged⟩ := ih
    cases turn_of_step (awaits_chunk asked _) step with
    | @saved contact others _ _ data _ _ taken =>
      obtain ⟨-, rfl⟩ := all_of_asked asked
      refine ⟨missing_nil ?_, (Nat.le_of_eq counted).trans (Nat.zero_le _), logged⟩
      rw [written_accepted taken, show d.written h = [] from account]
      exact tiles_all d pos
    | @unsaved contact others _ _ data _ taken | @lost contact others _ _ data _ _ _ taken =>
      obtain ⟨-, rfl⟩ := all_of_asked asked
      refine ⟨Tiles.sparse ?_, (Nat.le_of_eq counted).trans (Nat.zero_le _), logged⟩
      rw [written_accepted taken, show d.written h = [] from account]
      exact tiles_all d pos
    | asksNext refused =>
      obtain ⟨-, rfl⟩ := all_of_asked asked
      refine Accounted.congr ⟨account, counted, logged⟩ (deliveries_refused refused h slot p)
    | nobodyLeft refused =>
      obtain ⟨-, rfl⟩ := all_of_asked asked
      refine Accounted.congr ⟨⟨[d.all], ?_, List.cons_ne_nil _ _, ?_⟩,
        (Nat.le_of_eq counted).trans (Nat.zero_le _), logged⟩ (deliveries_refused refused h slot p)
      · rw [show d.written h = [] from account]
        exact missing_all d pos
      · rw [missing_eq_unwritten (missing_all d pos), unwritten_nil]
    | @delivered _ _ _ _ x _ _ _ _ found taken _ settled =>
      obtain ⟨rfl, rfl⟩ := at?_of_asked account.orderly asked found
      refine accounted_answer counted logged ?_ settled
      rw [written_accepted taken]
      exact account.delivered found
    | @abandoned _ _ _ _ _ x _ _ cause _ _ found taken _ settled =>
      obtain ⟨rfl, rfl⟩ := at?_of_asked account.orderly asked found
      refine accounted_answer counted logged ?_ settled
      rw [written_accepted taken]
      exact account.abandoned found cause
    | refused found refused settled =>
      obtain ⟨rfl, rfl⟩ := at?_of_asked account.orderly asked found
      refine accounted_answer counted logged ?_ settled
      rw [written_of_deliveries (deliveries_refused refused h slot _)]
      exact account.refused found

end Download
end LocalSwarm
