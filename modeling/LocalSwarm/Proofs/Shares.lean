import LocalSwarm.Proofs.Ranges

/-! How what is missing is shared out. Every missing range is cut into equal pieces, the last of which
takes the remainder, and the pieces of all ranges are dealt out in turn. Main statement:
`missing_is_shared_out`; that there can be more contacts than lists for them is
`contacts_may_outnumber_lists`. -/
namespace LocalSwarm

namespace ByteRange

/-- Every range of a list ends before the next ones begin. -/
def InOrder (rs : List ByteRange) : Prop := rs.Pairwise fun a b => a.stop < b.start

/-- The ranges of a list follow one another, without a gap, from an offset on up to another one. -/
def Successive : (first : Nat) → List ByteRange → (behind : Nat) → Prop
  | first, [], behind => first = behind
  | first, r :: rs, behind => r.start = first ∧ Successive (r.stop + 1) rs behind

theorem Successive.inside {first behind : Nat} {rs : List ByteRange}
    (successive : Successive first rs behind) : ∀ r ∈ rs, first ≤ r.start ∧ r.stop < behind := by
  induction rs generalizing first with
  | nil => nofun
  | cons r rs ih =>
    obtain ⟨rfl, rest⟩ := successive
    have := r.start_le_stop
    refine List.forall_mem_cons.2 ⟨⟨Nat.le_refl _, ?_⟩, fun q member => ?_⟩
    · cases rs with
      | nil => exact Nat.lt_of_succ_le (Nat.le_of_eq rest)
      | cons q rs =>
        have := q.start_le_stop
        have := ih rest q List.mem_cons_self
        omega
    · have := ih rest q member
      omega

theorem Successive.inOrder {first behind : Nat} {rs : List ByteRange}
    (successive : Successive first rs behind) : InOrder rs := by
  induction rs generalizing first with
  | nil => exact .nil
  | cons r rs ih =>
    obtain ⟨-, rest⟩ := successive
    exact .cons (fun q member => (rest.inside q member).1) (ih rest)

/-- Ranges in order that are cut up are in order still. -/
theorem InOrder.cut {rs : List ByteRange} {f : ByteRange → List ByteRange} (ordered : InOrder rs)
    (cut : ∀ r ∈ rs, Successive r.start (f r) (r.stop + 1)) : InOrder (rs.map f).flatten := by
  refine List.pairwise_flatten.2 ⟨?_, List.pairwise_map.2 (ordered.imp_of_mem ?_)⟩
  · intro qs member
    obtain ⟨r, listed, rfl⟩ := List.mem_map.1 member
    exact (cut r listed).inOrder
  · intro a b first second before p ofFirst q ofSecond
    have := (cut a first).inside p ofFirst
    have := (cut b second).inside q ofSecond
    omega

end ByteRange

namespace Partition
open ByteRange (InOrder Successive)

/-! ### Cutting a range -/

/-- How a range is cut into pieces of one share. -/
structure Cut (share : Nat) (r : ByteRange) (pieces : List ByteRange) : Prop where
  successive : Successive r.start pieces (r.stop + 1)
  count : pieces.length = max 1 (r.size / share)
  equal : ∀ p ∈ pieces.dropLast, p.size = share
  rest : ∀ p ∈ pieces.getLast?, p.size < 2 * share

/-- Below the highest offsets twice a share is compared as it is. -/
theorem splitPiece_cases {r : ByteRange} {share : Nat} (some : 1 ≤ share)
    (low : r.stop < 0x8000000000000000) :
    (splitPiece r share = (r, none) ∧ r.size < 2 * share) ∨
      ∃ first rest, splitPiece r share = (first, .some rest) ∧ first.start = r.start ∧
        first.size = share ∧ rest.start = first.stop + 1 ∧ rest.stop = r.stop ∧
        r.size = share + rest.size ∧ share ≤ rest.size := by
  have := r.start_le_stop
  unfold splitPiece ByteRange.splitChunk ByteRange.size ByteRange.limit
  split
  · rw [dif_pos (by omega)]
    refine .inr ⟨_, _, rfl, ?_⟩
    dsimp only
    omega
  · exact .inl ⟨rfl, by omega⟩

theorem cut_pieces {r : ByteRange} {share : Nat} (some : 1 ≤ share)
    (low : r.stop < 0x8000000000000000) : Cut share r (pieces r share) := by
  fun_induction pieces r share with
  | case1 r first rest split less ih =>
    rcases splitPiece_cases some low with ⟨whole, -⟩ | ⟨first', rest', parted, cut⟩
    · cases split.symm.trans whole
    · cases split.symm.trans parted
      obtain ⟨start, size, behind, stop, both, long⟩ := cut
      have after := ih (stop ▸ low)
      have counted : (pieces rest share).length = rest.size / share :=
        after.count.trans (Nat.max_eq_right ((Nat.one_le_div_iff some).2 long))
      obtain ⟨p, ps, later⟩ : ∃ p ps, pieces rest share = p :: ps := by
        refine List.exists_cons_of_length_pos ?_
        rw [after.count]
        exact Nat.lt_of_lt_of_le Nat.zero_lt_one (Nat.le_max_left ..)
      constructor
      · refine ⟨start, ?_⟩
        rw [← behind, ← stop]
        exact after.successive
      · rw [List.length_cons, counted, both, Nat.add_div_left _ some]
        omega
      · rw [later, List.dropLast_cons_cons, ← later]
        exact List.forall_mem_cons.2 ⟨size, after.equal⟩
      · rw [later, List.getLast?_cons_cons, ← later]
        exact after.rest
  | case2 r first split =>
    rcases splitPiece_cases some low with ⟨whole, short⟩ | ⟨first', rest', parted, -⟩
    · cases split.symm.trans whole
      have few : r.size / share < 2 := Nat.div_lt_of_lt_mul (by rwa [Nat.mul_comm])
      refine ⟨⟨rfl, rfl⟩, ?_, fun p none => absurd none List.not_mem_nil, fun p last => ?_⟩
      · rw [List.length_singleton]
        omega
      · cases last
        exact short
    · cases split.symm.trans parted

/-! ### Dealing out -/

/-- Items are dealt out in turn: hand after hand gets one, and then the first hand the next one. -/
structure Dealt {α : Type} (hands : Nat) (items : List α) (parts : List (List α)) : Prop where
  length : parts.length = hands
  places : ∀ hand (inside : hand < parts.length) turn,
    parts[hand][turn]? = items[turn * hands + hand]?

/-- What stands at the places of a range, as long as there is something at all. -/
theorem getElem?_filterMap_range {α : Type} {f : Nat → Option α}
    (ends : ∀ i, f i = none → f (i + 1) = none) {n i : Nat} (inside : i < n) :
    ((List.range n).filterMap f)[i]? = f i := by
  induction n generalizing f i with
  | zero => cases inside
  | succ n ih =>
    rw [List.range_succ_eq_map, List.filterMap_cons, List.filterMap_map]
    cases first : f 0 with
    | none =>
      have nothing (i : Nat) : f i = none := by
        induction i with
        | zero => exact first
        | succ i before => exact ends i before
      have empty : f ∘ Nat.succ = fun _ => none := funext fun i => nothing (i + 1)
      simp only [empty, List.filterMap_none, nothing i, List.getElem?_nil]
    | some a =>
      cases i with
      | zero => exact first.symm
      | succ i => exact ih (fun i => ends (i + 1)) (Nat.lt_of_succ_lt_succ inside)

theorem dealt_deal {α : Type} (hands : Nat) (items : List α) :
    Dealt hands items (deal hands items) := by
  refine ⟨length_deal hands items, fun hand inside turn => ?_⟩
  have pos : 0 < hands := Nat.zero_lt_of_lt (length_deal hands items ▸ inside)
  simp only [deal, List.getElem_map, List.getElem_range, List.size_toArray, List.getElem?_toArray]
  by_cases within : turn < items.length / hands + 1
  · refine getElem?_filterMap_range (fun i nothing => ?_) within
    rw [List.getElem?_eq_none_iff] at nothing ⊢
    rw [Nat.add_mul]
    omega
  · have beyond : items.length ≤ turn * hands + hand := by
      have := Nat.div_add_mod' items.length hands
      have := Nat.mod_lt items.length pos
      have : (items.length / hands + 1) * hands ≤ turn * hands :=
        Nat.mul_le_mul_right hands (Nat.le_of_not_lt within)
      rw [Nat.add_mul] at this
      omega
    rw [List.getElem?_eq_none_iff.2 beyond, List.getElem?_eq_none_iff]
    refine (List.length_filterMap_le _ _).trans ?_
    rw [List.length_range]
    exact Nat.le_of_not_lt within

namespace Dealt

variable {α : Type} {hands : Nat} {items : List α} {parts : List (List α)}

/-- What is dealt to one hand stands in the order of the items. -/
theorem pairwise (dealt : Dealt hands items parts) {R : α → α → Prop} (ordered : items.Pairwise R) :
    ∀ part ∈ parts, part.Pairwise R := by
  intro part member
  obtain ⟨hand, inside, rfl⟩ := List.mem_iff_getElem.1 member
  rw [List.pairwise_iff_getElem]
  intro i j first second before
  have place (turn : Nat) (here : turn < parts[hand].length) :
      items[turn * hands + hand]? = some parts[hand][turn] := by
    rw [← dealt.places hand inside, List.getElem?_eq_getElem here]
  obtain ⟨within, same⟩ := List.getElem?_eq_some_iff.1 (place i first)
  obtain ⟨within', same'⟩ := List.getElem?_eq_some_iff.1 (place j second)
  rw [← same, ← same']
  refine List.pairwise_iff_getElem.1 ordered _ _ within within' ?_
  have pos : 0 < hands := Nat.zero_lt_of_lt (dealt.length ▸ inside)
  exact Nat.add_lt_add_right (Nat.mul_lt_mul_of_pos_right before pos) hand

/-- As long as there are no more items than hands, nobody gets two. -/
theorem length_le_one (dealt : Dealt hands items parts) (few : items.length ≤ hands) :
    ∀ part ∈ parts, part.length ≤ 1 := by
  intro part member
  obtain ⟨hand, inside, rfl⟩ := List.mem_iff_getElem.1 member
  rw [← List.getElem?_eq_none_iff, dealt.places hand inside, List.getElem?_eq_none_iff]
  omega

end Dealt

/-! ### Shares -/

/-- Ranges in order take up no more than the space between the first of them and a bound. -/
theorem add_sum_size_le {rs : List ByteRange} {first bound : Nat} (ordered : InOrder rs)
    (after : ∀ r ∈ rs, first ≤ r.start) (below : ∀ r ∈ rs, r.stop < bound) (room : first ≤ bound) :
    first + sumOver ByteRange.size rs ≤ bound := by
  induction rs generalizing first with
  | nil => exact room
  | cons r rs ih =>
    obtain ⟨apart, ordered⟩ := List.pairwise_cons.1 ordered
    obtain ⟨here, below⟩ := List.forall_mem_cons.1 below
    have start := after r List.mem_cons_self
    have rest := ih ordered apart below here
    have := r.start_le_stop
    have : r.size = r.stop - r.start + 1 := rfl
    rw [sumOver_cons]
    omega

/-- Ranges in the lower half of all offsets can be parted, among as many contacts as there can be
lists. -/
theorem partition_eq {pending : List ByteRange} {contacts chunk : Nat}
    (ordered : InOrder pending) (low : ∀ r ∈ pending, r.stop < 0x8000000000000000)
    (present : 1 ≤ contacts) (few : contacts ≤ handLimit) (byte : 1 ≤ chunk) :
    partition pending contacts chunk = .ok (deal contacts (pending.map
      (pieces · (max (sumOver ByteRange.size pending / contacts) chunk))).flatten) := by
  have inside : ∀ r ∈ pending, r.stop < ByteRange.limit := fun r member =>
    (low r member).trans (by decide)
  have sizes : sumOver ByteRange.length pending = sumOver ByteRange.size pending :=
    ByteRange.sum_length_eq inside
  have fits : sumOver ByteRange.size pending ≤ ByteRange.limit := by
    have room := add_sum_size_le ordered (fun _ _ => Nat.zero_le _) low (Nat.zero_le _)
    exact (Nat.le_add_left _ 0).trans (room.trans (by decide))
  rw [partition_eq_deal (Nat.ne_of_gt present) few (sizes ▸ fits) inside, sizes, share,
    Nat.max_eq_left byte, List.flatMap]

/-- If there are no more contacts than bytes in a share, one range has no more pieces than there are
contacts. -/
theorem count_le_contacts {size contacts chunk : Nat} (some : 1 ≤ contacts)
    (few : contacts ≤ max (size / contacts) chunk) :
    max 1 (size / max (size / contacts) chunk) ≤ contacts := by
  refine Nat.max_le.2 ⟨some, Nat.le_of_lt_succ ?_⟩
  have parted := Nat.div_add_mod size contacts
  have rest := Nat.mod_lt size some
  refine Nat.div_lt_of_lt_mul ?_
  generalize size / contacts = each at few parted
  have least : contacts * each ≤ contacts * max each chunk :=
    Nat.mul_le_mul_left contacts (Nat.le_max_left each chunk)
  rw [Nat.mul_succ, Nat.mul_comm]
  omega

/-- Missing ranges in order are cut in equal pieces, as long as a share, and these are dealt out to
the contacts in turn. There may be as many contacts as lists can be set aside for. -/
theorem missing_is_shared_out {pending : List ByteRange} {contacts chunk : Nat}
    (ordered : InOrder pending) (low : ∀ r ∈ pending, r.stop < 0x8000000000000000)
    (present : 1 ≤ contacts) (few : contacts ≤ handLimit) (byte : 1 ≤ chunk) :
    let share := max (sumOver ByteRange.size pending / contacts) chunk
    ∃ cuts parts, partition pending contacts chunk = .ok parts ∧
      List.Forall₂ (Cut share) pending cuts ∧ InOrder cuts.flatten ∧
      Dealt contacts cuts.flatten parts ∧ (∀ pieces ∈ parts, InOrder pieces) ∧
      (pending.length = 1 → contacts ≤ share → ∀ pieces ∈ parts, pieces.length ≤ 1) := by
  intro share
  have byteShare : 1 ≤ share := byte.trans (Nat.le_max_right ..)
  have cut (r : ByteRange) (member : r ∈ pending) : Cut share r (pieces r share) :=
    cut_pieces byteShare (low r member)
  have apart := ordered.cut fun r member => (cut r member).successive
  have dealt := dealt_deal contacts (pending.map (pieces · share)).flatten
  refine ⟨_, _, partition_eq ordered low present few byte, ?_, apart, dealt,
    dealt.pairwise apart, fun single enough => dealt.length_le_one ?_⟩
  · rw [List.forall₂_map_right_iff, List.forall₂_same]
    exact cut
  · obtain ⟨r, rfl⟩ := List.length_eq_one_iff.1 single
    rw [List.map_singleton, List.flatten_singleton, (cut r List.mem_cons_self).count]
    exact count_le_contacts present enough

/-- Ten bytes in two ranges make three pieces for three contacts, the first of four bytes. -/
theorem ten_bytes_are_shared_by_three :
    let pending : List ByteRange := [⟨2, 5, by decide, by decide⟩, ⟨8, 13, by decide, by decide⟩]
    ∃ cuts parts, partition pending 3 2 = .ok parts ∧ List.Forall₂ (Cut 3) pending cuts ∧
      InOrder cuts.flatten ∧ Dealt 3 cuts.flatten parts ∧ (∀ pieces ∈ parts, InOrder pieces) ∧
      (pending.length = 1 → 3 ≤ 3 → ∀ pieces ∈ parts, pieces.length ≤ 1) :=
  missing_is_shared_out (by unfold InOrder; decide) (by decide) (by decide) (by decide) (by decide)

/-- Where there are more contacts than lists can be set aside for, nothing is shared out, although
something is missing. -/
theorem contacts_may_outnumber_lists :
    let pending : List ByteRange := [⟨0, 9, by decide, by decide⟩]
    InOrder pending ∧ (∀ r ∈ pending, r.stop < 0x8000000000000000) ∧
      ¬∃ parts, partition pending 384307168202282326 1 = .ok parts := by
  refine ⟨List.pairwise_singleton .., by decide, ?_⟩
  rintro ⟨parts, parted⟩
  have refused : partition [⟨0, 9, by decide, by decide⟩] 384307168202282326 1 =
      .error (.tooManySlots 384307168202282326) := rfl
  cases refused.symm.trans parted

end Partition
end LocalSwarm
