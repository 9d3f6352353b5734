import LocalSwarm.Proofs.Shares

/-! Chunks of a range. They tile it: they follow one another from its start to its stop, all of one
size but for the last one, which takes what is left. Offsets have sixty-four bits, and whoever cuts
off one chunk after the other never leaves them, up to the last offset of all. Main statement:
`chunks_tile`. -/
namespace LocalSwarm.ByteRange

/-! ### Cutting off chunks -/

theorem splitChunk_cases (r : ByteRange) (limit : Nat) :
    (r.splitChunk limit = (r, none) ∧ r.size ≤ max limit 1) ∨
      ∃ first rest, r.splitChunk limit = (first, some rest) ∧ first.start = r.start ∧
        first.size = max limit 1 ∧ rest.start = first.stop + 1 ∧ rest.stop = r.stop := by
  unfold splitChunk
  split
  · refine .inr ⟨_, _, rfl, rfl, ?_, rfl, rfl⟩
    simp only [size]
    omega
  · refine .inl ⟨rfl, ?_⟩
    simp only [size]
    omega

theorem chunks_eq (r : ByteRange) (limit : Nat) :
    r.chunks limit =
      (r.splitChunk limit).1 :: (r.splitChunk limit).2.toList.flatMap (·.chunks limit) := by
  rw [chunks]
  split
  · next first rest split =>
    change first :: rest.chunks limit = _
    rw [split]
    exact congrArg _ (List.append_nil _).symm
  · next first split =>
    rw [split]
    rfl

theorem chunks_ne_nil (r : ByteRange) (limit : Nat) : r.chunks limit ≠ [] := by
  rw [chunks_eq]
  exact List.cons_ne_nil _ _

theorem successive_chunks (r : ByteRange) (limit : Nat) :
    Successive r.start (r.chunks limit) (r.stop + 1) := by
  fun_induction chunks r limit with
  | case1 r first rest split less ih =>
    rcases r.splitChunk_cases limit with ⟨whole, -⟩ | ⟨first', rest', parted, start, -, behind, stop⟩
    · cases split.symm.trans whole
    · cases split.symm.trans parted
      refine ⟨start, ?_⟩
      rw [← behind, ← stop]
      exact ih
  | case2 r first split =>
    rcases r.splitChunk_cases limit with ⟨whole, -⟩ | ⟨first', rest', parted, -⟩
    · cases split.symm.trans whole
      exact ⟨rfl, rfl⟩
    · cases split.symm.trans parted

/-- Looking at some chunks only does not change them. -/
theorem firstChunks_eq (r : ByteRange) (limit count : Nat) :
    r.firstChunks limit count = (r.chunks limit).take count := by
  induction count generalizing r with
  | zero => rfl
  | succ count ih =>
    rw [firstChunks, chunks_eq]
    cases split : r.splitChunk limit with
    | mk first rest =>
      cases rest with
      | none => exact congrArg (first :: ·) List.take_nil.symm
      | some rest =>
        change first :: rest.firstChunks limit count = first :: (rest.chunks limit ++ []).take count
        rw [ih, List.append_nil]

theorem cover_chunks (r : ByteRange) (limit o : Nat) : cover (r.chunks limit) o = cover [r] o := by
  fun_induction chunks r limit with
  | case1 r first rest split less ih =>
    have cut := r.cover_splitChunk limit o
    rw [split] at cut
    rw [cover_cons, ih, ← cut, Option.toList_some, cover_cons first]
  | case2 r first split =>
    have cut := r.cover_splitChunk limit o
    rw [split] at cut
    exact cut

theorem cover_flatMap_chunks (rs : List ByteRange) (limit o : Nat) :
    cover (rs.flatMap (·.chunks limit)) o = cover rs o := by
  induction rs with
  | nil => rfl
  | cons r rs ih =>
    rw [List.flatMap_cons, cover_append, ih, cover_chunks, ← cover_append]
    rfl

/-! ### Tiles -/

/-- Ranges of one width that make up a range, of which the last one may be shorter. -/
structure Tiles (r : ByteRange) (width : Nat) (tiles : List ByteRange) : Prop where
  some : tiles ≠ []
  successive : Successive r.start tiles (r.stop + 1)
  inOrder : InOrder tiles
  full : ∀ tile ∈ tiles.dropLast, tile.size = width
  rest : ∀ tile ∈ tiles.getLast?, 1 ≤ tile.size ∧ tile.size ≤ width
  count : (tiles.length - 1) * width < r.size ∧ r.size ≤ tiles.length * width

theorem Tiles.whole {r : ByteRange} {width : Nat} (short : r.size ≤ width) : Tiles r width [r] where
  some := List.cons_ne_nil _ _
  successive := ⟨rfl, rfl⟩
  inOrder := List.pairwise_singleton _ _
  full := nofun
  rest := by
    rintro _ ⟨⟩
    exact ⟨Nat.succ_pos _, short⟩
  count := by
    simp only [List.length_singleton, Nat.sub_self, Nat.zero_mul, Nat.one_mul]
    exact ⟨Nat.succ_pos _, short⟩

/-- A tile of full width goes in front of those that make up what is left. -/
theorem Tiles.cons {r first rest : ByteRange} {width : Nat} {tiles : List ByteRange}
    (t : Tiles rest width tiles) (start : first.start = r.start) (wide : first.size = width)
    (behind : rest.start = first.stop + 1) (stop : rest.stop = r.stop) :
    Tiles r width (first :: tiles) := by
  have chain : Successive r.start (first :: tiles) (r.stop + 1) := by
    refine ⟨start, ?_⟩
    rw [← behind, ← stop]
    exact t.successive
  have total : r.size = width + rest.size := by
    have := first.start_le_stop
    have := rest.start_le_stop
    unfold size at wide ⊢
    omega
  obtain ⟨tile, tiles, rfl⟩ := List.exists_cons_of_ne_nil t.some
  refine ⟨List.cons_ne_nil _ _, chain, chain.inOrder, ?full, ?rest, ?count⟩
  case full => exact List.forall_mem_cons.2 ⟨wide, t.full⟩
  case rest => exact t.rest
  case count =>
    obtain ⟨more, fewer⟩ := t.count
    simp only [List.length_cons, Nat.add_sub_cancel, Nat.succ_mul] at more fewer ⊢
    omega

theorem tiles_chunks (r : ByteRange) (limit : Nat) :
    Tiles r (max limit 1) (r.chunks limit) := by
  fun_induction chunks r limit with
  | case1 r first rest split less ih =>
    rcases r.splitChunk_cases limit with ⟨whole, -⟩ | ⟨_, _, parted, start, wide, behind, stop⟩
    · cases split.symm.trans whole
    · cases split.symm.trans parted
      exact ih.cons start wide behind stop
  | case2 r first split =>
    rcases r.splitChunk_cases limit with ⟨whole, short⟩ | ⟨_, _, parted, -⟩
    · cases split.symm.trans whole
      exact .whole short
    · cases split.symm.trans parted

/-! ### Cursors -/

/-- The first and the last offset of a range as words of sixty-four bits. -/
def ends (r : ByteRange) : UInt64 × UInt64 := (.ofNat r.start, .ofNat r.stop)

theorem toNat_start (r : ByteRange) : (UInt64.ofNat r.start).toNat = r.start := by
  rw [UInt64.toNat_ofNat']
  exact Nat.mod_eq_of_lt (Nat.lt_of_le_of_lt r.start_le_stop r.stop_lt)

theorem toNat_stop (r : ByteRange) : (UInt64.ofNat r.stop).toNat = r.stop := by
  rw [UInt64.toNat_ofNat']
  exact Nat.mod_eq_of_lt r.stop_lt

/-- Where the next chunk starts, unless nothing is left, and what all chunks have in common. -/
structure Cursor where
  next : Option UInt64
  stop : UInt64
  width : UInt64

def cursor (r : ByteRange) (limit : UInt64) : Cursor :=
  ⟨some (.ofNat r.start), .ofNat r.stop, max limit 1⟩

namespace Cursor

/-- Counting on by one, which fails at the last offset of all. -/
def successor (offset : UInt64) : Except Fault UInt64 :=
  if offset.toNat < ByteRange.limit then .ok (offset + 1) else .error .overflow

/-- Counting back by one, which fails at zero. -/
def predecessor (offset : UInt64) : Except Fault UInt64 :=
  if 0 < offset.toNat then .ok (offset - 1) else .error .overflow

/-- An offset so much farther on, or the last offset of all where there is none. -/
def advance (offset count : UInt64) : UInt64 :=
  .ofNat (min (offset.toNat + count.toNat) ByteRange.limit)

/-- Where the next chunk starts behind one that ends at an offset, unless that was the last one. -/
def behind (c : Cursor) (offset : UInt64) : Except Fault (Option UInt64) :=
  if offset = c.stop then .ok none else (successor offset).map some

/-- The first and last offset of the next chunk, unless nothing is left, and the cursor behind it. -/
def cut (c : Cursor) : Except Fault (Option ((UInt64 × UInt64) × Cursor)) :=
  match c.next with
  | none => return none
  | some start => do
    let stop := min (advance start (← predecessor c.width)) c.stop
    let next ← c.behind stop
    return some ((start, stop), { c with next })

/-- All that a cursor cuts off until nothing is left. No number on the way is beyond the last offset
of all or below zero. -/
inductive Yields : Cursor → List (UInt64 × UInt64) → Prop
  | done {c : Cursor} : c.cut = .ok none → Yields c []
  | more {c rest : Cursor} {piece : UInt64 × UInt64} {pieces : List (UInt64 × UInt64)} :
      c.cut = .ok (some (piece, rest)) → Yields rest pieces → Yields c (piece :: pieces)

theorem Yields.unique {c : Cursor} {pieces pieces' : List (UInt64 × UInt64)}
    (yields : c.Yields pieces) (yields' : c.Yields pieces') : pieces = pieces' := by
  induction yields generalizing pieces' with
  | done stopped =>
    cases yields' with
    | done => rfl
    | more cut _ => cases stopped.symm.trans cut
  | more cut _ ih =>
    cases yields' with
    | done stopped => cases stopped.symm.trans cut
    | more cut' rest =>
      cases cut.symm.trans cut'
      rw [ih rest]

/-- Only the last offset of all has none behind it, and no chunk but the last one ends there. -/
theorem behind_eq {c : Cursor} {offset : UInt64} (inside : offset.toNat ≤ c.stop.toNat) :
    c.behind offset = .ok (if offset = c.stop then none else some (offset + 1)) := by
  by_cases last : offset = c.stop
  · rw [behind, if_pos last, if_pos last]
  · have low : offset.toNat < ByteRange.limit := by
      have : offset.toNat ≠ c.stop.toNat := fun same => last (UInt64.toNat_inj.1 same)
      have : c.stop.toNat ≤ ByteRange.limit := Nat.le_of_lt_succ c.stop.toNat_lt
      omega
    rw [behind, if_neg last, if_neg last, successor, if_pos low]
    rfl

theorem cut_eq {c : Cursor} {start stop : UInt64} (here : c.next = some start)
    (wide : 0 < c.width.toNat)
    (place : stop.toNat = min (start.toNat + (c.width.toNat - 1)) c.stop.toNat) :
    c.cut = .ok (some ((start, stop),
      { c with next := if stop = c.stop then none else some (stop + 1) })) := by
  have back : predecessor c.width = .ok (c.width - 1) := if_pos wide
  have less : (c.width - 1).toNat = c.width.toNat - 1 :=
    UInt64.toNat_sub_of_le _ _ (UInt64.le_iff_toNat_le.2 wide)
  have reached : min (advance start (c.width - 1)) c.stop = stop := by
    have : c.stop.toNat ≤ ByteRange.limit := Nat.le_of_lt_succ c.stop.toNat_lt
    rw [← UInt64.toNat_inj, UInt64.toNat_min, advance, UInt64.toNat_ofNat', less, place,
      Nat.mod_eq_of_lt (Nat.lt_of_le_of_lt (Nat.min_le_right ..) (by decide))]
    omega
  have next : c.behind stop = .ok (if stop = c.stop then none else some (stop + 1)) :=
    behind_eq (place ▸ Nat.min_le_right ..)
  rw [cut, here]
  change (predecessor c.width).bind (fun width =>
    (c.behind (min (advance start width) c.stop)).bind _) = _
  rw [back]
  change (c.behind (min (advance start (c.width - 1)) c.stop)).bind _ = _
  rw [reached, next]
  rfl

end Cursor

/-- What is cut off a range is its first chunk, and what is left is the rest of the range. -/
theorem cut_cursor (r : ByteRange) (limit : UInt64) :
    (r.cursor limit).cut = .ok (some ((r.splitChunk limit.toNat).1.ends,
      (r.splitChunk limit.toNat).2.elim { r.cursor limit with next := none } (·.cursor limit))) := by
  have wide : (r.cursor limit).width.toNat = max limit.toNat 1 := UInt64.toNat_max limit 1
  have last : (r.cursor limit).stop = .ofNat r.stop := rfl
  have order := r.start_le_stop
  rcases r.splitChunk_cases limit.toNat with
    ⟨whole, short⟩ | ⟨first, rest, parted, start, full, behind, stop⟩
  · have place : (UInt64.ofNat r.stop).toNat = min ((UInt64.ofNat r.start).toNat +
        ((r.cursor limit).width.toNat - 1)) (r.cursor limit).stop.toNat := by
      rw [wide, last, toNat_start, toNat_stop]
      unfold size at short
      omega
    rw [whole, Cursor.cut_eq rfl (by rw [wide]; omega) place, last, if_pos rfl]
    rfl
  · have within := first.start_le_stop
    have within' := rest.start_le_stop
    have place : (UInt64.ofNat first.stop).toNat = min ((UInt64.ofNat r.start).toNat +
        ((r.cursor limit).width.toNat - 1)) (r.cursor limit).stop.toNat := by
      rw [wide, last, toNat_start, toNat_stop, toNat_stop]
      unfold size at full
      omega
    have inner : UInt64.ofNat first.stop ≠ UInt64.ofNat r.stop := by
      rw [Ne, ← UInt64.toNat_inj, toNat_stop, toNat_stop]
      omega
    have next : UInt64.ofNat first.stop + 1 = UInt64.ofNat rest.start := by
      rw [behind, UInt64.ofNat_add]
      rfl
    rw [parted, Cursor.cut_eq rfl (by rw [wide]; omega) place, last, if_neg inner, next, ← stop,
      ← start]
    rfl

theorem yields_chunks (r : ByteRange) (limit : UInt64) :
    (r.cursor limit).Yields ((r.chunks limit.toNat).map ends) := by
  generalize count : limit.toNat = n
  fun_induction chunks r n with
  | case1 r first rest split less ih =>
    have cut := r.cut_cursor limit
    rw [count, split] at cut
    exact .more cut ih
  | case2 r first split =>
    have cut := r.cut_cursor limit
    rw [count, split] at cut
    exact .more cut (.done rfl)

/-- Whatever the range and the size that chunks may have, also if that is zero, its chunks tile it,
and they are what is cut off it, chunk after chunk, until nothing is left: offsets beyond sixty-four
bits do not occur on the way. -/
theorem chunks_tile (r : ByteRange) (limit : UInt64) :
    Tiles r (max limit.toNat 1) (r.chunks limit.toNat) ∧
      (∀ count, r.firstChunks limit.toNat count = (r.chunks limit.toNat).take count) ∧
      ∀ pieces, (r.cursor limit).Yields pieces ↔ pieces = (r.chunks limit.toNat).map ends := by
  refine ⟨r.tiles_chunks limit.toNat, r.firstChunks_eq limit.toNat, fun pieces => ⟨?_, ?_⟩⟩
  · exact fun yields => yields.unique (r.yields_chunks limit)
  · rintro rfl
    exact r.yields_chunks limit

end LocalSwarm.ByteRange
