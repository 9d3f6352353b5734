import LocalSwarm.Proofs.Downloads.Tree

/-! What a saved file consists of. A chunk is only ever asked of a contact that has said in the most
recent probe that it holds the wanted copy, and each byte of the file is the one that the accepted
answer to such a request has brought to its offset. -/
namespace LocalSwarm.Download

/-- The contacts that chunks are asked of, now or later in the same round. -/
def Stage.contacts : Stage → List Peer
  | .whole contact others => contact :: others
  | .filling _ _ fill => fill.transfers.map (·.2.contact)
  | _ => []

theorem contact_of_asked {d : Download} {stage : Stage} {slot : Nat} {p : Peer} {range : ByteRange}
    (asked : (slot, p, range) ∈ d.asked stage) : p ∈ stage.contacts := by
  cases stage with
  | whole contact others =>
    cases List.mem_singleton.1 asked
    exact List.mem_cons_self
  | filling part round fill =>
    obtain ⟨⟨number, x⟩, active, same⟩ := List.mem_map.1 asked
    cases same
    exact List.mem_map_of_mem (f := fun x => x.2.contact) (List.mem_append_left _ active)
  | probing => cases asked
  | probingAgain => cases asked
  | ended => cases asked

theorem contacts_of_settled {d : Download} {t t' : Files.Tree} {part : Files.Location}
    {round : Nat} {fill : Fill} {next : Stage} (settled : Settled d t part round fill t' next)
    {p : Peer} (member : p ∈ next.contacts) : ∃ x ∈ fill.transfers, x.2.contact = p := by
  cases settled with
  | goesOn => exact List.mem_map.1 member
  | failed | saved | unsaved | givenUp | again => cases member

theorem contacts_of_probed {d : Download} {t t' : Files.Tree} {stage next : Stage}
    {contacts : List Peer} (turn : Turn d t stage (.probed contacts) t' next) {p : Peer}
    (member : p ∈ next.contacts) : p ∈ contacts := by
  cases turn with
  | asksWhole => exact member
  | begins _ _ _ _ _ settled =>
    obtain ⟨x, transfer, rfl⟩ := contacts_of_settled settled member
    exact Fill.contact_start transfer
  | resumes _ _ settled =>
    obtain ⟨x, transfer, rfl⟩ := contacts_of_settled settled member
    exact Fill.contact_start transfer
  | notFound | blocked | unfit | exhausted => cases member

/-- After an answer, chunks are asked of nobody else than before. -/
theorem contacts_of_chunk {d : Download} {t t' : Files.Tree} {stage next : Stage} {slot : Nat}
    {answer : Option (FileStatus × Bytes)} (turn : Turn d t stage (.chunk slot answer) t' next)
    {p : Peer} (member : p ∈ next.contacts) : p ∈ stage.contacts := by
  cases turn with
  | asksNext => exact List.mem_cons_of_mem _ member
  | delivered found _ _ settled =>
    obtain ⟨y, transfer, rfl⟩ := contacts_of_settled settled member
    obtain ⟨z, before, same⟩ := Fill.contact_deliver found transfer
    rw [← same]
    exact List.mem_map_of_mem before
  | abandoned found _ _ settled =>
    obtain ⟨y, transfer, rfl⟩ := contacts_of_settled settled member
    obtain ⟨z, before, same⟩ := Fill.contact_abandon found transfer
    rw [← same]
    exact List.mem_map_of_mem before
  | refused found _ settled =>
    obtain ⟨y, transfer, rfl⟩ := contacts_of_settled settled member
    obtain ⟨z, before, same⟩ := Fill.contact_refuse found transfer
    rw [← same]
    exact List.mem_map_of_mem before
  | saved | unsaved | lost | nobodyLeft => cases member

theorem Qualified.append {d : Download} {h : List Happening} {p : Peer} (q : d.Qualified h p)
    {x : Happening} (other : x.isCheck = false) : d.Qualified (h ++ [x]) p := by
  obtain ⟨older, checks, chunks, rfl, noChunk, noCheck, slot, outcome, member, holds⟩ := q
  refine ⟨older, checks, chunks ++ [x], ?_, noChunk, ?_, slot, outcome, member, holds⟩
  · exact List.append_assoc _ _ _
  · intro y member
    rcases List.mem_append.1 member with old | new
    · exact noCheck y old
    · rw [List.mem_singleton.1 new]
      exact other

/-- The requests for chunks that were answered, and those that still are to be made, are to contacts
that have qualified in the probe before. -/
structure Trusting (d : Download) (h : List Happening) (stage : Stage) : Prop where
  contacts : ∀ p ∈ stage.contacts, d.Qualified h p
  asked : ∀ before x after, h = before ++ x :: after → x.isChunk = true →
    ∃ slot p range outcome, x = d.chunkAnswer slot p range outcome ∧ d.Qualified before p

/-- What was said of the past is said of it still. -/
theorem Trusting.past {d : Download} {h : List Happening} {stage : Stage} (t : Trusting d h stage)
    {y : Happening} (new : y.isChunk = true →
      ∃ slot p range outcome, y = d.chunkAnswer slot p range outcome ∧ d.Qualified h p)
    (before : List Happening) (x : Happening) (after : List Happening)
    (split : h ++ [y] = before ++ x :: after) (chunk : x.isChunk = true) :
    ∃ slot p range outcome, x = d.chunkAnswer slot p range outcome ∧ d.Qualified before p := by
  rcases List.eq_nil_or_concat after with rfl | ⟨after', z, rfl⟩
  · obtain ⟨rfl, same⟩ := List.append_inj' split rfl
    obtain rfl : y = x := List.head_eq_of_cons_eq same
    exact new chunk
  · rw [List.concat_eq_append, ← List.cons_append, ← List.append_assoc] at split
    exact t.asked before x after' (List.append_inj' split rfl).1 chunk

theorem Trusting.append {d : Download} {h : List Happening} {stage : Stage} (t : Trusting d h stage)
    {y : Happening} (noCheck : y.isCheck = false) (noChunk : y.isChunk = false) :
    Trusting d (h ++ [y]) stage := by
  refine ⟨fun p member => (t.contacts p member).append noCheck, t.past fun chunk => ?_⟩
  rw [noChunk] at chunk
  cases chunk

theorem Course.trusting {d : Download} {online : List Peer → Prop} {t₀ t : Files.Tree}
    {h : List Happening} {rounds : List Round} {stage : Stage}
    (course : Course d online t₀ h rounds t stage) : Trusting d h stage := by
  induction course with
  | start =>
    refine ⟨fun p member => absurd member List.not_mem_nil, ?_⟩
    intro before x after split
    exact absurd split.symm (List.append_ne_nil_of_right_ne_nil _ (List.cons_ne_nil _ _))
  | created _ _ _ _ _ ih => exact ih.append rfl rfl
  | elapsed _ _ _ _ ih => exact ih.append rfl rfl
  | disrupted _ _ _ ih => exact ih.append rfl rfl
  | @checked h rounds t stage slot p outcome _ probing ih =>
    refine ⟨fun p member => ?_, ih.past fun chunk => ?_⟩
    · cases stage with
      | probing => cases member
      | probingAgain => cases member
      | whole => cases probing
      | filling => cases probing
      | ended => cases probing
    · cases chunk
  | @probed older checks _ _ _ _ _ _ contacts _ probing noChunk _ probed step ih =>
    refine ⟨fun p member => ?_, ih.asked⟩
    have turn := turn_of_step (awaits_probed probing contacts) step
    obtain ⟨slot, outcome, heard, holds⟩ := probed.qualified p (contacts_of_probed turn member)
    refine ⟨older, checks, [], (List.append_nil _).symm, noChunk, ?_, slot, outcome, heard, holds⟩
    intro x member
    cases member
  | @chunk h _ _ _ stage next slot p range outcome _ asked step ih =>
    have turn := turn_of_step (awaits_chunk asked _) step
    refine ⟨fun q member => ?_, ih.past fun _ => ?_⟩
    · exact (ih.contacts q (contacts_of_chunk turn member)).append rfl
    · exact ⟨slot, p, range, outcome, rfl, ih.contacts p (contact_of_asked asked)⟩

/-- A byte of a file that is the one an accepted answer has brought to its offset. The contact that
gave the answer had qualified in the most recent probe. -/
def Brought (d : Download) (h : List Happening) (o : Nat) (byte : UInt8) : Prop :=
  ∃ before slot p range outcome status data after,
    h = before ++ d.chunkAnswer slot p range outcome :: after ∧
    outcome.chunk? = some (status, data) ∧
    range.start ≤ o ∧ o ≤ range.stop ∧
    status.bucketFound = true ∧ status.fileFound = true ∧
    status.size = d.request.size ∧ status.version = d.request.version ∧
    data.length = range.length ∧ data[o - range.start]? = some byte ∧
    d.Qualified before p

theorem Trusting.answer {d : Download} {h : List Happening} {stage : Stage} (t : Trusting d h stage)
    {range : ByteRange} {data : Bytes} (member : (range, data) ∈ d.deliveries h) :
    ∃ before slot p outcome after, h = before ++ d.chunkAnswer slot p range outcome :: after ∧
      d.accepted range outcome.chunk? = some data ∧ d.Qualified before p := by
  obtain ⟨x, inside, brings⟩ := List.mem_filterMap.1 member
  obtain ⟨before, after, split⟩ := List.append_of_mem inside
  have chunk : x.isChunk = true := by
    unfold delivery? at brings
    split at brings
    · rfl
    · cases brings
  obtain ⟨slot, p, range', outcome, rfl, qualified⟩ := t.asked before x after split chunk
  obtain ⟨data', taken, same⟩ := Option.map_eq_some_iff.1 brings
  cases same
  exact ⟨before, slot, p, outcome, after, split, taken, qualified⟩

theorem Trusting.brought {d : Download} {h : List Happening} {stage : Stage} (t : Trusting d h stage)
    {range : ByteRange} {data : Bytes} (member : (range, data) ∈ d.deliveries h) {o : Nat}
    {byte : UInt8} (reached : Files.Part.byteAt (range.start, data) o = some byte) :
    Brought d h o byte := by
  obtain ⟨before, slot, p, outcome, after, split, taken, qualified⟩ := t.answer member
  obtain ⟨status, answer, holds, length⟩ := length_of_accepted taken
  have inside : range.start ≤ o ∧ o < range.start + data.length :=
    Files.Part.byteAt_isSome_iff.1 (by rw [reached]; rfl)
  have last : o ≤ range.stop := by
    have := range.start_le_stop
    unfold ByteRange.length ByteRange.size at length
    omega
  rw [Files.Part.byteAt, if_pos inside.1] at reached
  simp only [DownloadRequest.qualifies, Bool.and_eq_true, decide_eq_true_eq] at holds
  obtain ⟨⟨⟨bucket, file⟩, size⟩, version⟩ := holds
  exact ⟨before, slot, p, range, outcome, status, data, after, split, answer, inside.1, last, bucket,
    file, size, version, length, reached, qualified⟩

/-- Every offset that was written has the byte that was brought to it. -/
theorem Trusting.content {d : Download} {h : List Happening} {stage : Stage} (t : Trusting d h stage)
    {o : Nat} (inside : o < d.size) (held : 0 < ByteRange.cover (d.written h) o) :
    ∃ byte, (d.assembled h).content[o]? = some byte ∧ Brought d h o byte := by
  obtain ⟨range, written, first, last⟩ := ByteRange.cover_pos_iff.1 held
  obtain ⟨⟨range, data⟩, member, rfl⟩ := List.mem_map.1 written
  have reached : (Files.Part.byteAt (range.start, data) o).isSome = true := by
    obtain ⟨before, slot, p, outcome, after, -, taken, -⟩ := t.answer member
    obtain ⟨-, -, -, length⟩ := length_of_accepted taken
    refine Files.Part.byteAt_isSome_iff.2 ⟨first, ?_⟩
    have := d.request.size.toNat_lt
    dsimp only at last ⊢
    rw [length]
    unfold ByteRange.length ByteRange.size ByteRange.limit
    unfold size at inside
    omega
  have some : ((d.assembled h).writes.findSome? (Files.Part.byteAt · o)).isSome = true := by
    refine List.findSome?_isSome_iff.2 ⟨(range.start, data), ?_, reached⟩
    exact List.mem_reverse.2 (List.mem_map_of_mem (f := fun chunk => (chunk.1.start, chunk.2)) member)
  obtain ⟨byte, found⟩ := Option.isSome_iff_exists.1 some
  refine ⟨byte, ?_, ?_⟩
  · rw [Files.Part.getElem?_content _ inside, found]
    rfl
  · obtain ⟨write, stands, brings⟩ := List.exists_of_findSome?_eq_some found
    obtain ⟨⟨range', data'⟩, member', rfl⟩ := List.mem_map.1 (List.mem_reverse.1 stands)
    exact t.brought member' brings

end LocalSwarm.Download
