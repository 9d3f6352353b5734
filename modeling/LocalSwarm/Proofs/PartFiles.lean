import LocalSwarm.Files.Part

/-! What a part file holds. Main statement: at every offset stands the byte of the last write that
reached it, and zero where none did. -/
namespace LocalSwarm.Files.Part

/-- The byte that a write brings to an offset, if it reaches so far. -/
def byteAt (write : Nat × Bytes) (o : Nat) : Option UInt8 :=
  if write.1 ≤ o then write.2[o - write.1]? else none

theorem byteAt_of_lt {offset o : Nat} (before : o < offset) (data : Bytes) :
    byteAt (offset, data) o = none := if_neg (Nat.not_le.2 before)

theorem byteAt_cons_self (o : Nat) (b : UInt8) (bs : Bytes) : byteAt (o, b :: bs) o = some b := by
  rw [byteAt, if_pos (Nat.le_refl o), Nat.sub_self]
  rfl

theorem byteAt_cons_of_ne {offset o : Nat} (differ : o ≠ offset) (b : UInt8) (bs : Bytes) :
    byteAt (offset, b :: bs) o = byteAt (offset + 1, bs) o := by
  by_cases reached : offset + 1 ≤ o
  · have step : o - offset = o - (offset + 1) + 1 := by omega
    simp only [byteAt, if_pos reached, if_pos (Nat.le_of_succ_le reached), step,
      List.getElem?_cons_succ]
  · rw [byteAt_of_lt (by omega), byteAt_of_lt (by omega)]

/-- A write brings a byte to just the offsets that its data reach. -/
theorem byteAt_isSome_iff {write : Nat × Bytes} {o : Nat} :
    (byteAt write o).isSome = true ↔ write.1 ≤ o ∧ o < write.1 + write.2.length := by
  unfold byteAt
  split
  · next reached =>
    rw [Option.isSome_iff_ne_none, ne_eq, List.getElem?_eq_none_iff]
    omega
  · next before => simp [before]

/-- How many of the writes have reached an offset. -/
def times (p : Part) (o : Nat) : Nat := p.writes.countP fun write => (byteAt write o).isSome

theorem size_overlay (content : Array UInt8) (write : Nat × Bytes) :
    (overlay content write).size = content.size := by
  obtain ⟨offset, data⟩ := write
  unfold overlay
  induction data generalizing content offset with
  | nil => rfl
  | cons b bs ih =>
    rw [List.zipIdx_cons, List.foldl_cons, ih, Array.size_setIfInBounds]

theorem getElem?_overlay (content : Array UInt8) (write : Nat × Bytes) {o : Nat}
    (inside : o < content.size) :
    (overlay content write)[o]? = (byteAt write o).or content[o]? := by
  obtain ⟨offset, data⟩ := write
  induction data generalizing content offset with
  | nil => simp [overlay, byteAt]
  | cons b bs ih =>
    have rest := ih (content.setIfInBounds offset b)
      (by rwa [Array.size_setIfInBounds]) (offset + 1)
    have first : overlay content (offset, b :: bs) =
        overlay (content.setIfInBounds offset b) (offset + 1, bs) := rfl
    rw [first, rest]
    by_cases same : o = offset
    · subst same
      rw [byteAt_cons_self, byteAt_of_lt (Nat.lt_succ_self o),
        Array.getElem?_setIfInBounds_self_of_lt inside]
      rfl
    · rw [byteAt_cons_of_ne same, Array.getElem?_setIfInBounds_ne (Ne.symm same)]

theorem content_write (p : Part) (offset : Nat) (data : Bytes) :
    (p.write offset data).content = (overlay p.content.toArray (offset, data)).toList := by
  simp only [content, write, List.reverse_cons, List.foldl_append, List.foldl_cons, List.foldl_nil,
    Array.toArray_toList]

theorem length_content (p : Part) : p.content.length = p.length := by
  obtain ⟨length, writes⟩ := p
  induction writes with
  | nil => simp [content]
  | cons w ws ih =>
    change (write ⟨length, ws⟩ w.1 w.2).content.length = length
    rw [content_write, Array.length_toList, size_overlay, List.size_toArray, ih]

/-- The last write that reaches an offset decides on its byte. -/
theorem getElem?_content (p : Part) {o : Nat} (inside : o < p.length) :
    p.content[o]? = some ((p.writes.findSome? (byteAt · o)).getD 0) := by
  obtain ⟨length, writes⟩ := p
  induction writes with
  | nil => simp [content, inside]
  | cons w ws ih =>
    have size : o < (content ⟨length, ws⟩).toArray.size := by
      rwa [List.size_toArray, length_content]
    change (write ⟨length, ws⟩ w.1 w.2).content[o]? = _
    rw [content_write, Array.getElem?_toList, getElem?_overlay _ _ size, List.getElem?_toArray,
      ih inside, List.findSome?_cons]
    cases byteAt w o <;> rfl

end LocalSwarm.Files.Part
