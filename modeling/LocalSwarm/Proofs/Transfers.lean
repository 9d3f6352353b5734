import LocalSwarm.Proofs.Ranges
import LocalSwarm.Download.Transfer

/-! The account of a round of transfers. A chunk that is delivered leaves the round, a chunk that is
refused stays in it, and no offset is lost or doubled: `cover_left_start`, `cover_left_deliver` and
`cover_left_refuse`. What a transfer has to do that fails is given up: `cover_left_abandon`. -/
namespace LocalSwarm
open ByteRange (cover cover_cons cover_append cover_perm)

theorem perm_of_lookup {α : Type} {xs : List (Nat × α)} {number : Nat} {x : α}
    (h : xs.lookup number = some x) : xs.Perm ((number, x) :: xs.eraseP (·.1 == number)) := by
  induction xs with
  | nil => cases h
  | cons y ys ih =>
    obtain ⟨n, y⟩ := y
    by_cases same : n = number
    · subst same
      rw [List.lookup_cons_self, Option.some.injEq] at h
      subst h
      rw [List.eraseP_cons_of_pos (by exact BEq.rfl)]
    · have differs : (number == n) = false := by simpa using fun e => same e.symm
      rw [List.lookup_cons, differs] at h
      rw [List.eraseP_cons_of_neg (by simpa using same)]
      exact ((ih h).cons _).trans (List.Perm.swap _ _ _)

namespace Transfer

theorem remaining_start (contact : Peer) (pieces : List ByteRange) :
    (start? contact pieces).toList.flatMap remaining = pieces := by
  cases pieces with
  | nil => rfl
  | cons piece later => exact List.append_nil _

theorem contact_start {contact : Peer} {pieces : List ByteRange} {x : Transfer}
    (h : start? contact pieces = some x) : x.contact = contact := by
  cases pieces with
  | nil => cases h
  | cons piece later =>
    cases h
    rfl

theorem contact_delivered {x y : Transfer} {limit : Nat} (h : x.delivered? limit = some y) :
    y.contact = x.contact := contact_start h

/-- A delivered chunk is what a transfer has less to do. -/
theorem cover_delivered (x : Transfer) (limit o : Nat) :
    cover x.remaining o =
      cover [x.chunk limit] o + cover ((x.delivered? limit).toList.flatMap remaining) o := by
  rw [delivered?, remaining_start, remaining, cover_cons, cover_append]
  have cut := x.piece.cover_splitChunk limit o
  rw [cover_cons, cover_cons] at cut
  rw [chunk, cover_cons]
  simp only [ByteRange.cover_nil] at cut ⊢
  omega

end Transfer

namespace Fill

def transfers (f : Fill) : List (Nat × Transfer) := f.active ++ f.waiting

/-- All ranges of a round that no chunk was delivered of. -/
def left (f : Fill) : List ByteRange :=
  f.undelivered ++ f.transfers.flatMap fun x => x.2.remaining

/-- Every transfer has a number of its own, and none waits while nothing is under way. -/
structure Orderly (f : Fill) : Prop where
  distinct : (f.transfers.map (·.1)).Nodup
  busy : f.active = [] → f.waiting = []

theorem isOver_iff {f : Fill} : f.isOver = true ↔ f.transfers = [] := by
  rw [isOver, transfers, Bool.and_eq_true, List.isEmpty_iff, List.isEmpty_iff,
    List.append_eq_nil_iff]

theorem left_of_isOver {f : Fill} (h : f.isOver = true) : f.left = f.undelivered := by
  rw [left, isOver_iff.1 h]
  exact List.append_nil _

theorem pending_perm (f : Fill) : f.pending.Perm f.undelivered := List.mergeSort_perm _ _

theorem transfers_perm {f : Fill} {number : Nat} {x : Transfer} (h : f.at? number = some x) :
    f.transfers.Perm ((number, x) :: (f.others number ++ f.waiting)) :=
  (perm_of_lookup h).append_right f.waiting

theorem mem_transfers {f : Fill} {number : Nat} {x : Transfer} (h : f.at? number = some x) :
    (number, x) ∈ f.transfers :=
  (transfers_perm h).mem_iff.2 List.mem_cons_self

theorem transfers_release (f : Fill) (number : Nat) :
    (f.release number).transfers = f.others number ++ f.waiting := by
  unfold release transfers
  split
  · next first rest waits => rw [waits, List.append_assoc]; rfl
  · next waits => rw [waits]

theorem undelivered_release (f : Fill) (number : Nat) :
    (f.release number).undelivered = f.undelivered := by
  unfold release
  split <;> rfl

theorem failed_release (f : Fill) (number : Nat) : (f.release number).failed = f.failed := by
  unfold release
  split <;> rfl

theorem busy_release (f : Fill) (number : Nat) :
    (f.release number).active = [] → (f.release number).waiting = [] := by
  unfold release
  split
  · intro none
    exact absurd none (List.append_ne_nil_of_right_ne_nil _ (List.cons_ne_nil _ _))
  · next waits =>
    intro _
    exact waits

theorem transfers_deliver {f : Fill} {number : Nat} {x : Transfer} (h : f.at? number = some x)
    (limit : Nat) :
    (f.deliver number limit).transfers =
      (x.delivered? limit).toList.map (number, ·) ++ (f.others number ++ f.waiting) := by
  simp only [deliver, h]
  cases x.delivered? limit with
  | none => exact f.transfers_release number
  | some y => rfl

theorem undelivered_deliver (f : Fill) (number limit : Nat) :
    (f.deliver number limit).undelivered = f.undelivered := by
  unfold deliver
  split
  · rfl
  · split
    · rfl
    · exact f.undelivered_release number

theorem failed_deliver (f : Fill) (number limit : Nat) :
    (f.deliver number limit).failed = f.failed := by
  unfold deliver
  split
  · rfl
  · split
    · rfl
    · exact f.failed_release number

theorem transfers_refuse {f : Fill} {number : Nat} {x : Transfer} (h : f.at? number = some x) :
    (f.refuse number).transfers = f.others number ++ f.waiting := by
  simp only [refuse, h]
  exact transfers_release _ number

theorem undelivered_refuse {f : Fill} {number : Nat} {x : Transfer} (h : f.at? number = some x) :
    (f.refuse number).undelivered = f.undelivered ++ x.remaining := by
  simp only [refuse, h]
  exact undelivered_release _ number

theorem failed_refuse (f : Fill) (number : Nat) : (f.refuse number).failed = f.failed := by
  unfold refuse
  split
  · rfl
  · exact failed_release _ number

theorem transfers_abandon (f : Fill) (number : Nat) (cause : Files.FileError) :
    (f.abandon number cause).transfers = f.others number ++ f.waiting := transfers_release _ number

theorem undelivered_abandon (f : Fill) (number : Nat) (cause : Files.FileError) :
    (f.abandon number cause).undelivered = f.undelivered := undelivered_release _ number

/-- The first failure counts. -/
theorem failed_abandon (f : Fill) (number : Nat) (cause : Files.FileError) :
    (f.abandon number cause).failed = f.failed.or (some cause) := failed_release _ number

theorem failed_abandon_ne_none (f : Fill) (number : Nat) (cause : Files.FileError) :
    (f.abandon number cause).failed ≠ none := by
  rw [failed_abandon]
  cases f.failed <;> exact nofun

/-- What a transfer under way and all others have to do. -/
theorem cover_left {f : Fill} {number : Nat} {x : Transfer} (h : f.at? number = some x) (o : Nat) :
    cover f.left o = cover f.undelivered o + cover x.remaining o +
      cover ((f.others number ++ f.waiting).flatMap fun x => x.2.remaining) o := by
  rw [left, cover_append, cover_perm ((transfers_perm h).flatMap_right _), List.flatMap_cons,
    cover_append, Nat.add_assoc]

theorem cover_left_deliver {f : Fill} {number : Nat} {x : Transfer} (h : f.at? number = some x)
    (limit o : Nat) :
    cover f.left o = cover [x.chunk limit] o + cover (f.deliver number limit).left o := by
  have numbered : ((x.delivered? limit).toList.map (number, ·)).flatMap (fun x => x.2.remaining) =
      (x.delivered? limit).toList.flatMap Transfer.remaining :=
    List.flatMap_map _ _ _
  rw [cover_left h, x.cover_delivered limit, left, undelivered_deliver, transfers_deliver h]
  simp only [List.flatMap_append, numbered, cover_append]
  omega

theorem cover_left_refuse {f : Fill} {number : Nat} {x : Transfer} (h : f.at? number = some x)
    (o : Nat) : cover (f.refuse number).left o = cover f.left o := by
  rw [cover_left h, left, undelivered_refuse h, transfers_refuse h, cover_append, cover_append]

theorem cover_left_abandon {f : Fill} {number : Nat} {x : Transfer} (h : f.at? number = some x)
    (cause : Files.FileError) (o : Nat) :
    cover f.left o = cover x.remaining o + cover (f.abandon number cause).left o := by
  rw [cover_left h, left, undelivered_abandon, transfers_abandon, cover_append]
  omega

theorem chunk_le_remaining (x : Transfer) (limit o : Nat) :
    cover [x.chunk limit] o ≤ cover x.remaining o := by
  rw [x.cover_delivered limit]
  exact Nat.le_add_right _ _

theorem chunk_le_left {f : Fill} {number : Nat} {x : Transfer} (h : f.at? number = some x)
    (limit o : Nat) : cover [x.chunk limit] o ≤ cover f.left o := by
  rw [cover_left_deliver h limit]
  exact Nat.le_add_right _ _

/-- Whoever has a transfer after a chunk was delivered had one before, under the same number. -/
theorem contact_deliver {f : Fill} {number limit : Nat} {x : Transfer} (h : f.at? number = some x)
    {y : Nat × Transfer} (member : y ∈ (f.deliver number limit).transfers) :
    ∃ z ∈ f.transfers, z.2.contact = y.2.contact := by
  rw [transfers_deliver h, List.mem_append, List.mem_map] at member
  rcases member with ⟨next, started, rfl⟩ | same
  · refine ⟨(number, x), mem_transfers h, ?_⟩
    exact (Transfer.contact_delivered (Option.mem_toList.1 started)).symm
  · exact ⟨y, (transfers_perm h).mem_iff.2 (List.mem_cons_of_mem _ same), rfl⟩

theorem contact_refuse {f : Fill} {number : Nat} {x : Transfer} (h : f.at? number = some x)
    {y : Nat × Transfer} (member : y ∈ (f.refuse number).transfers) :
    ∃ z ∈ f.transfers, z.2.contact = y.2.contact := by
  rw [transfers_refuse h] at member
  exact ⟨y, (transfers_perm h).mem_iff.2 (List.mem_cons_of_mem _ member), rfl⟩

theorem contact_abandon {f : Fill} {number : Nat} {x : Transfer} (h : f.at? number = some x)
    {cause : Files.FileError} {y : Nat × Transfer}
    (member : y ∈ (f.abandon number cause).transfers) :
    ∃ z ∈ f.transfers, z.2.contact = y.2.contact := by
  rw [transfers_abandon] at member
  exact ⟨y, (transfers_perm h).mem_iff.2 (List.mem_cons_of_mem _ member), rfl⟩

namespace Orderly

theorem cons_nodup {f : Fill} (o : f.Orderly) {number : Nat} {x : Transfer}
    (h : f.at? number = some x) :
    (number :: (f.others number ++ f.waiting).map (·.1)).Nodup :=
  ((transfers_perm h).map Prod.fst).nodup_iff.1 o.distinct

theorem refuse {f : Fill} (o : f.Orderly) {number : Nat} {x : Transfer}
    (h : f.at? number = some x) : (f.refuse number).Orderly where
  distinct := by
    rw [transfers_refuse h]
    exact (o.cons_nodup h).of_cons
  busy := by
    simp only [Fill.refuse, h]
    exact busy_release _ number

theorem abandon {f : Fill} (o : f.Orderly) {number : Nat} {x : Transfer}
    (h : f.at? number = some x) (cause : Files.FileError) : (f.abandon number cause).Orderly where
  distinct := by
    rw [transfers_abandon]
    exact (o.cons_nodup h).of_cons
  busy := busy_release _ number

theorem deliver {f : Fill} (o : f.Orderly) {number : Nat} {x : Transfer}
    (h : f.at? number = some x) (limit : Nat) : (f.deliver number limit).Orderly where
  distinct := by
    rw [transfers_deliver h]
    cases x.delivered? limit with
    | none => exact (o.cons_nodup h).of_cons
    | some y => exact o.cons_nodup h
  busy := by
    simp only [Fill.deliver, h]
    cases x.delivered? limit with
    | none => exact busy_release _ number
    | some y =>
      intro none
      cases none

end Orderly

/-- When a transfer has gone on or has ended, the others under way are still under way, and whatever
else is under way then goes by another number than they. -/
structure Keeps (f g : Fill) (number : Nat) : Prop where
  others : ∀ x ∈ f.others number, x ∈ g.active
  fresh : ∀ x ∈ g.active, x ∈ f.others number ∨ x.1 ∉ (f.others number).map (·.1)
  distinct : (g.active.map (·.1)).Nodup

theorem Orderly.active_nodup {f : Fill} (o : f.Orderly) : (f.active.map (·.1)).Nodup := by
  have distinct := o.distinct
  rw [transfers, List.map_append] at distinct
  exact distinct.of_append_left

/-- A transfer has ended, and nothing has become of the round besides. -/
theorem keeps_of_released {f g : Fill} (o : f.Orderly) {number : Nat} {x : Transfer}
    (found : f.at? number = some x) (distinct : (g.active.map (·.1)).Nodup)
    (ended : g.active = (f.release number).active) : f.Keeps g number := by
  have apart := o.cons_nodup found
  cases waits : f.waiting with
  | nil =>
    have same : g.active = f.others number := by rw [ended, release, waits]
    exact ⟨fun y member => same ▸ member, fun y member => .inl (same ▸ member), distinct⟩
  | cons next waiting =>
    have same : g.active = f.others number ++ [next] := by rw [ended, release, waits]
    refine ⟨fun y member => same ▸ List.mem_append_left _ member, fun y member => ?_, distinct⟩
    rw [same] at member
    rcases List.mem_append.1 member with old | new
    · exact .inl old
    · right
      obtain rfl := List.mem_singleton.1 new
      intro taken
      rw [waits, List.map_append, List.map_cons] at apart
      exact (List.nodup_append.1 apart.of_cons).2.2 _ taken _ List.mem_cons_self rfl

theorem keeps_deliver {f : Fill} (o : f.Orderly) {number : Nat} {x : Transfer}
    (found : f.at? number = some x) (limit : Nat) : f.Keeps (f.deliver number limit) number := by
  have distinct := (o.deliver found limit).active_nodup
  have apart := o.cons_nodup found
  cases next : x.delivered? limit with
  | none =>
    have ended : f.deliver number limit = f.release number := by
      simp only [deliver, found, next]
    exact keeps_of_released o found distinct (congrArg active ended)
  | some y =>
    have goes : (f.deliver number limit).active = (number, y) :: f.others number := by
      simp only [deliver, found, next]
    refine ⟨?_, ?_, distinct⟩
    · intro z member
      rw [goes]
      exact List.mem_cons_of_mem _ member
    · intro z member
      rw [goes] at member
      rcases List.mem_cons.1 member with rfl | old
      · right
        intro taken
        refine apart.notMem ?_
        rw [List.map_append]
        exact List.mem_append_left _ taken
      · exact .inl old

theorem keeps_refuse {f : Fill} (o : f.Orderly) {number : Nat} {x : Transfer}
    (found : f.at? number = some x) : f.Keeps (f.refuse number) number := by
  have ended : (f.refuse number).active = (f.release number).active := by
    simp only [refuse, found, release]
    split <;> rfl
  exact keeps_of_released o found (o.refuse found).active_nodup ended

theorem keeps_abandon {f : Fill} (o : f.Orderly) {number : Nat} {x : Transfer}
    (found : f.at? number = some x) (cause : Files.FileError) :
    f.Keeps (f.abandon number cause) number := by
  have ended : (f.abandon number cause).active = (f.release number).active := by
    simp only [abandon, release]
    split <;> rfl
  exact keeps_of_released o found (o.abandon found cause).active_nodup ended

/-- Once a round is over, no other transfer is under way. -/
theorem Keeps.none_of_isOver {f g : Fill} {number : Nat} (k : f.Keeps g number)
    (ends : g.isOver = true) : f.others number = [] := by
  rw [isOver, Bool.and_eq_true, List.isEmpty_iff] at ends
  refine List.eq_nil_iff_forall_not_mem.2 fun x member => ?_
  have under := k.others x member
  rw [ends.1] at under
  exact List.not_mem_nil under

/-- Those of the transfers under way that were under way before are the others. -/
theorem Keeps.perm {f g : Fill} {number : Nat} (k : f.Keeps g number)
    (apart : ((f.others number).map (·.1)).Nodup) :
    (g.active.filter fun x => ((f.others number).map (·.1)).contains x.1).Perm
      (f.others number) := by
  refine (List.perm_ext_iff_of_nodup ?_ apart.of_map).2 fun x => ?_
  · exact (List.filter_sublist).nodup k.distinct.of_map
  · rw [List.mem_filter, List.contains_iff_mem]
    constructor
    · rintro ⟨under, taken⟩
      exact (k.fresh x under).resolve_right (not_not_intro taken)
    · intro member
      exact ⟨k.others x member, List.mem_map_of_mem member⟩

theorem transfers_start (contacts : List Peer) (pieces : List (List ByteRange)) (width : Nat) :
    (start contacts pieces width).transfers =
      (((contacts.zip pieces).filterMap fun (c, ps) => Transfer.start? c ps).zipIdx).map
        fun (x, number) => (number, x) := by
  simp only [start, transfers, List.splitAt_eq, List.take_append_drop]

theorem orderly_start (contacts : List Peer) (pieces : List (List ByteRange)) (width : Nat) :
    (start contacts pieces width).Orderly where
  distinct := by
    rw [transfers_start, List.map_map]
    change ((_ : List (Transfer × Nat)).map Prod.snd).Nodup
    rw [List.zipIdx_map_snd]
    exact List.nodup_range'
  busy := by
    simp only [start, List.splitAt_eq]
    intro none
    rcases List.take_eq_nil_iff.1 none with zero | nil
    · omega
    · rw [nil, List.drop_nil]

theorem contact_start {contacts : List Peer} {pieces : List (List ByteRange)} {width : Nat}
    {x : Nat × Transfer} (member : x ∈ (start contacts pieces width).transfers) :
    x.2.contact ∈ contacts := by
  rw [transfers_start] at member
  obtain ⟨⟨transfer, number⟩, numbered, rfl⟩ := List.mem_map.1 member
  have listed := List.fst_mem_of_mem_zipIdx numbered
  obtain ⟨⟨c, ps⟩, pair, started⟩ := List.mem_filterMap.1 listed
  rw [Transfer.contact_start started]
  exact (List.of_mem_zip pair).1

/-- A round has to do what its pieces are. -/
theorem cover_left_start {contacts : List Peer} {pieces : List (List ByteRange)}
    (enough : pieces.length ≤ contacts.length) (width o : Nat) :
    cover (start contacts pieces width).left o = cover pieces.flatten o := by
  have dealt : ∀ (cs : List Peer) (pss : List (List ByteRange)), pss.length ≤ cs.length →
      ((cs.zip pss).filterMap fun (c, ps) => Transfer.start? c ps).flatMap Transfer.remaining =
        pss.flatten := by
    intro cs pss
    induction pss generalizing cs with
    | nil =>
      intro _
      rw [List.zip_nil_right]
      rfl
    | cons ps pss ih =>
      intro le
      cases cs with
      | nil => cases le
      | cons c cs =>
        rw [List.zip_cons_cons, List.filterMap_cons, List.flatten_cons,
          ← ih cs (Nat.le_of_succ_le_succ le)]
        cases ps <;> rfl
  have same : ((start contacts pieces width).transfers.flatMap fun x => x.2.remaining) =
      pieces.flatten := by
    rw [transfers_start, ← dealt contacts pieces enough, List.flatMap_map]
    conv_rhs => rw [← List.zipIdx_map_fst 0 (List.filterMap _ _), List.flatMap_map]
  rw [left, same]
  rfl

end Fill
end LocalSwarm
