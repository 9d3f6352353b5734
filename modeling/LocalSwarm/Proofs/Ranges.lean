import Mathlib.Algebra.BigOperators.Intervals
import Mathlib.Data.List.Nodup
import Mathlib.Data.List.Perm.Basic
import LocalSwarm.Download.Partition

/-! Which offsets lists of ranges hold, counted with multiplicity. Cutting a range and dealing out
its pieces moves no offset: main statements are `cover_splitChunk`, `cover_pieces` and
`cover_partition`. Counts add up, so that an account of all bytes is a sum. -/
namespace LocalSwarm

namespace ByteRange

def holds (r : ByteRange) (o : Nat) : Bool := r.start ≤ o && o ≤ r.stop

@[simp] theorem holds_iff {r : ByteRange} {o : Nat} :
    r.holds o = true ↔ r.start ≤ o ∧ o ≤ r.stop := by
  simp only [holds, Bool.and_eq_true, decide_eq_true_eq]

/-- How many of the ranges hold an offset. -/
def cover (rs : List ByteRange) (o : Nat) : Nat := rs.countP (·.holds o)

@[simp] theorem cover_nil (o : Nat) : cover [] o = 0 := rfl

theorem cover_cons (r : ByteRange) (rs : List ByteRange) (o : Nat) :
    cover (r :: rs) o = (if r.holds o then 1 else 0) + cover rs o := by
  rw [cover, List.countP_cons, Nat.add_comm]
  rfl

@[simp] theorem cover_append (rs qs : List ByteRange) (o : Nat) :
    cover (rs ++ qs) o = cover rs o + cover qs o := List.countP_append

theorem cover_perm {rs qs : List ByteRange} (h : rs.Perm qs) (o : Nat) :
    cover rs o = cover qs o := h.countP_eq _

theorem cover_pos_iff {rs : List ByteRange} {o : Nat} :
    0 < cover rs o ↔ ∃ r ∈ rs, r.start ≤ o ∧ o ≤ r.stop := by
  simp only [cover, List.countP_pos_iff, holds_iff]

/-- The range of all offsets up to a last one holds just these. -/
theorem cover_all {r : ByteRange} (h : r.start = 0) (o : Nat) :
    cover [r] o = if o < r.stop + 1 then 1 else 0 := by
  rw [cover_cons, cover_nil, Nat.add_zero]
  congr 1
  rw [holds_iff, h, eq_iff_iff]
  omega

def Apart (a b : ByteRange) : Prop := a.stop < b.start ∨ b.stop < a.start

/-- Ranges are apart from each other where no offset is held twice. -/
theorem apart_of_cover {rs : List ByteRange} (once : ∀ o, cover rs o ≤ 1) : rs.Pairwise Apart := by
  induction rs with
  | nil => exact .nil
  | cons r rs ih =>
    have tail : ∀ o, cover rs o ≤ 1 := fun o => by
      have := once o
      rw [cover_cons] at this
      omega
    refine .cons ?_ (ih tail)
    intro q member
    by_contra meet
    have shared : r.start ≤ max r.start q.start ∧ max r.start q.start ≤ r.stop ∧
        q.start ≤ max r.start q.start ∧ max r.start q.start ≤ q.stop := by
      have := r.start_le_stop
      have := q.start_le_stop
      unfold Apart at meet
      omega
    have twice := once (max r.start q.start)
    have held : 0 < cover rs (max r.start q.start) :=
      cover_pos_iff.2 ⟨q, member, shared.2.2.1, shared.2.2.2⟩
    rw [cover_cons, if_pos (holds_iff.2 ⟨shared.1, shared.2.1⟩)] at twice
    omega

theorem sum_cover_single {r : ByteRange} {n : Nat} (inside : r.stop < n) :
    (∑ o ∈ Finset.range n, cover [r] o) = r.size := by
  have held : (Finset.range n).filter (fun o => r.holds o = true) = Finset.Icc r.start r.stop := by
    ext o
    rw [Finset.mem_filter, Finset.mem_range, Finset.mem_Icc, holds_iff]
    omega
  simp only [cover_cons, cover_nil, Nat.add_zero]
  rw [← Finset.card_filter, held, Nat.card_Icc, size]
  have := r.start_le_stop
  omega

/-- The sizes of ranges below a bound add up to the counts of the offsets below it. -/
theorem sum_cover {rs : List ByteRange} {n : Nat} (inside : ∀ r ∈ rs, r.stop < n) :
    (∑ o ∈ Finset.range n, cover rs o) = sumOver size rs := by
  induction rs with
  | nil => exact Finset.sum_const_zero
  | cons r rs ih =>
    have split : ∀ o, cover (r :: rs) o = cover [r] o + cover rs o := cover_append [r] rs
    simp only [split, Finset.sum_add_distrib]
    rw [sum_cover_single (inside r List.mem_cons_self),
      ih fun q member => inside q (List.mem_cons_of_mem r member), sumOver_cons]

/-- Only a range that holds all offsets has another length than its size. -/
theorem sum_length_eq {rs : List ByteRange} (low : ∀ r ∈ rs, r.stop < limit) :
    sumOver length rs = sumOver size rs := by
  refine sumOver_congr fun r member => Nat.min_eq_left ?_
  have below := low r member
  unfold size
  omega

theorem cover_splitChunk (r : ByteRange) (chunk o : Nat) :
    cover ((r.splitChunk chunk).1 :: (r.splitChunk chunk).2.toList) o = cover [r] o := by
  have := r.start_le_stop
  unfold splitChunk
  split
  · simp only [Option.toList_some, cover_cons, cover_nil, holds_iff]
    split_ifs <;> omega
  · simp only [Option.toList_none]

end ByteRange

namespace Partition
open ByteRange (cover cover_cons)

theorem cover_splitPiece (r : ByteRange) (share o : Nat) :
    cover ((splitPiece r share).1 :: (splitPiece r share).2.toList) o = cover [r] o := by
  unfold splitPiece
  split
  · exact r.cover_splitChunk share o
  · rfl

theorem cover_pieces (r : ByteRange) (share o : Nat) : cover (pieces r share) o = cover [r] o := by
  fun_induction pieces r share with
  | case1 r first rest split less ih =>
    have cut := cover_splitPiece r share o
    rw [split] at cut
    rw [cover_cons, ih, ← cut, Option.toList_some, cover_cons first]
  | case2 r first split =>
    have cut := cover_splitPiece r share o
    rw [split] at cut
    exact cut

/-- The places of the items, hand after hand. -/
def places (hands turns : Nat) : List Nat :=
  (List.range hands).flatMap fun hand => (List.range turns).map fun turn => turn * hands + hand

theorem mem_places {hands turns i : Nat} : i ∈ places hands turns ↔ i < turns * hands := by
  simp only [places, List.mem_flatMap, List.mem_map, List.mem_range]
  constructor
  · rintro ⟨hand, lt, turn, within, rfl⟩
    calc turn * hands + hand < turn * hands + hands := by omega
      _ = (turn + 1) * hands := by rw [Nat.add_mul, Nat.one_mul]
      _ ≤ turns * hands := Nat.mul_le_mul_right hands within
  · intro lt
    have pos : 0 < hands := Nat.pos_of_mul_pos_left (Nat.zero_lt_of_lt lt)
    refine ⟨i % hands, Nat.mod_lt i pos, i / hands, Nat.div_lt_of_lt_mul ?_, Nat.div_add_mod' i hands⟩
    rwa [Nat.mul_comm]

theorem nodup_places (hands turns : Nat) : (places hands turns).Nodup := by
  rw [places, List.nodup_flatMap]
  constructor
  · intro hand member
    have pos : 0 < hands := Nat.zero_lt_of_lt (List.mem_range.1 member)
    refine List.nodup_range.map ?_
    intro a b same
    exact Nat.eq_of_mul_eq_mul_right pos (Nat.add_right_cancel same)
  · refine List.nodup_range.imp_of_mem ?_
    intro a b left right differ
    rw [Function.onFun, List.disjoint_left]
    intro i first second
    obtain ⟨s, -, rfl⟩ := List.mem_map.1 first
    obtain ⟨t, -, same⟩ := List.mem_map.1 second
    apply differ
    have rest := congrArg (· % hands) same
    simp only [Nat.mul_add_mod_self_right] at rest
    rw [Nat.mod_eq_of_lt (List.mem_range.1 left), Nat.mod_eq_of_lt (List.mem_range.1 right)] at rest
    exact rest.symm

theorem filterMap_getElem?_range {α : Type} (items : List α) {n : Nat} (le : items.length ≤ n) :
    (List.range n).filterMap (fun i => items[i]?) = items := by
  induction items generalizing n with
  | nil => exact List.filterMap_none _
  | cons x xs ih =>
    obtain ⟨m, rfl⟩ : ∃ m, n = m + 1 := Nat.exists_eq_add_one.2 (Nat.zero_lt_of_lt le)
    rw [List.range_succ_eq_map, List.filterMap_cons, List.filterMap_map]
    exact congrArg (x :: ·) (ih (Nat.le_of_succ_le_succ le))

/-- Dealing out loses nothing and adds nothing. -/
theorem flatten_deal_perm {α : Type} {hands : Nat} (pos : 0 < hands) (items : List α) :
    (deal hands items).flatten.Perm items := by
  have dealt : (deal hands items).flatten =
      (places hands (items.length / hands + 1)).filterMap fun i => items[i]? := by
    simp only [deal, places, List.flatMap, List.filterMap_flatten, List.map_map, List.size_toArray,
      List.getElem?_toArray]
    congr 2
    funext hand
    rw [Function.comp_apply, List.filterMap_map]
    rfl
  have same : (places hands (items.length / hands + 1)).Perm
      (List.range ((items.length / hands + 1) * hands)) := by
    rw [List.perm_ext_iff_of_nodup (nodup_places _ _) List.nodup_range]
    intro i
    rw [mem_places, List.mem_range]
  have enough : items.length ≤ (items.length / hands + 1) * hands := by
    have := Nat.div_add_mod' items.length hands
    have := Nat.mod_lt items.length pos
    rw [Nat.add_mul]
    omega
  rw [dealt]
  refine (same.filterMap _).trans ?_
  rw [filterMap_getElem?_range items enough]

/-- The pieces that are dealt out hold what the missing ranges hold. -/
theorem cover_dealt {contacts : Nat} (pos : 0 < contacts) (pending : List ByteRange)
    (share o : Nat) :
    cover (deal contacts (pending.flatMap fun r => pieces r share)).flatten o = cover pending o := by
  rw [ByteRange.cover_perm (flatten_deal_perm pos _)]
  induction pending with
  | nil => rfl
  | cons r rs ih =>
    rw [List.flatMap_cons, ByteRange.cover_append, ih, cover_pieces, ← ByteRange.cover_append]
    rfl

/-- Whatever is parted is dealt out in pieces of one share. -/
theorem eq_deal_of_partition {pending : List ByteRange} {contacts chunk : Nat}
    {parts : List (List ByteRange)} (h : partition pending contacts chunk = .ok parts) :
    ∃ share, parts = deal contacts (pending.flatMap fun r => pieces r share) := by
  by_cases none : contacts = 0
  · subst none
    cases h
    exact ⟨0, rfl⟩
  · rw [partition, if_neg none] at h
    by_cases many : handLimit < contacts
    · rw [if_pos many] at h
      cases h
    · rw [if_neg many] at h
      cases sum : total pending with
      | error fault =>
        rw [sum] at h
        cases h
      | ok bytes =>
        rw [sum] at h
        refine ⟨share bytes contacts chunk, ?_⟩
        change (if _ then _ else _) = _ at h
        split at h
        · cases h
        · cases h
          rfl

/-- A list for every contact, and all that is missing is in the lists. -/
theorem cover_partition {pending : List ByteRange} {contacts chunk : Nat}
    {parts : List (List ByteRange)} (pos : 0 < contacts)
    (h : partition pending contacts chunk = .ok parts) :
    parts.length = contacts ∧ ∀ o, cover parts.flatten o = cover pending o := by
  obtain ⟨share, rfl⟩ := eq_deal_of_partition h
  exact ⟨length_deal contacts _, cover_dealt pos pending share⟩

/-- What is missing is parted, unless there are more contacts than there can be lists or a range
reaches the end of all offsets. -/
theorem partition_eq_deal {pending : List ByteRange} {contacts chunk : Nat} (some : contacts ≠ 0)
    (few : contacts ≤ handLimit) (fits : sumOver ByteRange.length pending ≤ ByteRange.limit)
    (low : ∀ r ∈ pending, r.stop < ByteRange.limit) :
    partition pending contacts chunk = .ok (deal contacts (pending.flatMap fun r =>
      pieces r (share (sumOver ByteRange.length pending) contacts chunk))) := by
  have sum : total pending = .ok (sumOver ByteRange.length pending) := if_neg (Nat.not_lt.2 fits)
  have inner : pending.any (·.stop = ByteRange.limit) = false := by
    rw [List.any_eq_false]
    intro r member
    simpa using Nat.ne_of_lt (low r member)
  rw [partition, if_neg some, if_neg (Nat.not_lt.2 few), sum]
  change (if _ then _ else _) = _
  rw [if_neg (by rw [inner]; exact Bool.false_ne_true)]
  rfl

/-- Parting fails only for more contacts than there can be lists, or at the end of all offsets. -/
theorem partition_isOk {pending : List ByteRange} {contacts chunk : Nat}
    (few : contacts ≤ handLimit) (fits : sumOver ByteRange.length pending ≤ ByteRange.limit)
    (low : ∀ r ∈ pending, r.stop < ByteRange.limit) :
    ∃ parts, partition pending contacts chunk = .ok parts := by
  by_cases none : contacts = 0
  · exact ⟨[], by rw [partition, if_pos none]; rfl⟩
  · exact ⟨_, partition_eq_deal none few fits low⟩

end Partition
end LocalSwarm
