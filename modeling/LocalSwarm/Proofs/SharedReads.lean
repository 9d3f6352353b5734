import Mathlib.Data.List.Basic
import LocalSwarm.Proofs.SharedFiles

/-! What is read of a shared file. A range is read exactly where the status of the file is told, and
what is read are the bytes of the file that the range covers. The file is looked at first and opened
afterwards, which makes no difference while nobody changes it. Main statement:
`reads_are_the_bytes_of_the_range`. -/
namespace LocalSwarm

/-- The offsets of a range in their order. -/
def ByteRange.offsets (r : ByteRange) : List Nat := List.range' r.start r.size

theorem ByteRange.length_pos (r : ByteRange) : 0 < r.length :=
  Nat.lt_min.2 ⟨Nat.succ_pos _, by decide⟩

theorem ByteRange.length_eq_size {r : ByteRange} {most : Nat} (small : r.length ≤ most)
    (below : most < ByteRange.limit) : r.length = r.size := by
  rw [length] at small ⊢
  omega

namespace Files

/-- What a file or a part file holds. -/
def Entry.bytes? : Entry → Option Bytes
  | .folder => none
  | .file f => some f.content
  | .part p => some p.content

namespace SharedFolders

variable {s : SharedFolders} {t : Tree} {query : FileQuery} {range : ByteRange}
  {status : FileStatus} {content data : Bytes}

/-- Where a shared file is looked for. -/
def path? (s : SharedFolders) (query : FileQuery) : Option String :=
  (s.roots.lookup query.bucket).bind (resolve · query)

/-- What a shared file holds, if it is there. -/
def content? (s : SharedFolders) (t : Tree) (query : FileQuery) : Option Bytes :=
  (s.path? query).bind fun path =>
    match t.lookup path with
    | .ok (_, e) => e.bytes?
    | .error _ => none

/-- Reading a file in two steps. The first look tells its status; only if the range starts within
the file, it is opened by its path. -/
def readOpened (s : SharedFolders) (seen opened : Tree) (query : FileQuery) (range : ByteRange) :
    Except FileError (FileStatus × Bytes) := do
  if servedLimit < range.length then .error .rangeTooLarge
  let status ← s.status seen query
  match s.path? query with
  | none => return (status, [])
  | some path =>
    if status.fileFound ∧ range.start < status.size.toNat then
      match (← opened.lookup path).2.bytes? with
      | some content => return (status, slice content range)
      | none => .error .isFolder
    else return (status, [])

/-! ### Slices -/

theorem slice_eq_filterMap (content : Bytes) (size start : Nat) :
    (content.drop start).take size = (List.range' start size).filterMap (content[·]?) := by
  induction size generalizing start with
  | zero => rw [List.take_zero, List.range'_zero, List.filterMap_nil]
  | succ size ih =>
    rw [List.range'_succ]
    by_cases inside : start < content.length
    · rw [List.filterMap_cons_some (List.getElem?_eq_getElem inside), ← ih,
        List.drop_eq_getElem_cons inside, List.take_succ_cons]
    · have past := Nat.not_lt.1 inside
      rw [List.filterMap_cons_none (List.getElem?_eq_none past), ← ih,
        List.drop_eq_nil_of_le past, List.drop_eq_nil_of_le (Nat.le_succ_of_le past), List.take_nil,
        List.take_nil]

theorem slice_eq_nil_iff (some : 0 < range.length) :
    slice content range = [] ↔ content.length ≤ range.start := by
  rw [slice, List.take_eq_nil_iff, List.drop_eq_nil_iff]
  omega

theorem length_slice_eq_iff (small : range.length = range.size) :
    (slice content range).length = range.length ↔ range.stop < content.length := by
  have order := range.start_le_stop
  rw [slice, List.length_take, List.length_drop, small, ByteRange.size]
  omega

/-! ### Status and content -/

/-- Where the status of a file is told, its content is known too. -/
theorem content_of_locate {file? : Option File} (located : s.locate t query = .ok (status, file?)) :
    s.content? t query = file?.map (·.content) := by
  unfold locate at located
  rw [content?, path?]
  cases bucket : s.roots.lookup query.bucket with
  | none =>
    rw [bucket] at located
    cases located
    rfl
  | some root =>
    cases inside : resolve root query with
    | none =>
      simp only [bucket, inside] at located
      cases located
      simp only [Option.bind_some, inside, Option.bind_none, Option.map_none]
    | some path =>
      simp only [bucket, inside] at located
      simp only [Option.bind_some, inside]
      split at located <;> cases located <;> simp [*, Entry.bytes?]

theorem fileFound_of_locate {file? : Option File}
    (located : s.locate t query = .ok (status, file?)) : status.fileFound = file?.isSome := by
  unfold locate at located
  split at located
  · cases located
    rfl
  · split at located
    · cases located
      rfl
    · split at located <;> cases located <;> rfl

theorem fileFound_of_status (told : s.status t query = .ok status) :
    status.fileFound = (s.content? t query).isSome := by
  obtain ⟨file?, located⟩ := exists_of_status told
  rw [fileFound_of_locate located, content_of_locate located, Option.isSome_map]

theorem size_of_status (told : s.status t query = .ok status)
    (held : s.content? t query = some content) : status.size = UInt64.ofNat content.length := by
  obtain ⟨file?, located⟩ := exists_of_status told
  rw [content_of_locate located] at held
  obtain ⟨f, rfl, rfl⟩ := Option.map_eq_some_iff.1 held
  obtain ⟨f', file, size⟩ := size_of_locate located (fileFound_of_locate located)
  rw [size, Option.some.inj file]

/-- A range that is served comes with the status, or fails as the status does. -/
theorem read_eq (small : range.length ≤ servedLimit) : s.read t query range =
    (s.status t query).map fun status => (status, (s.content? t query).elim [] (slice · range)) := by
  rw [read, if_neg (Nat.not_lt.2 small), SharedFolders.status]
  cases located : s.locate t query with
  | error e => rfl
  | ok found =>
    obtain ⟨status, file?⟩ := found
    rw [content_of_locate located]
    cases file? <;> rfl

theorem read_eq_error_iff (small : range.length ≤ servedLimit) {e : FileError} :
    s.read t query range = .error e ↔ s.status t query = .error e := by
  rw [read_eq small]
  cases s.status t query with
  | error e' =>
    rw [Except.map, Except.error.injEq, Except.error.injEq]
  | ok status => exact ⟨nofun, nofun⟩

theorem status_eq_ok_iff (small : range.length ≤ servedLimit) :
    s.status t query = .ok status ↔ ∃ data, s.read t query range = .ok (status, data) := by
  rw [read_eq small]
  cases s.status t query with
  | error e => exact ⟨nofun, nofun⟩
  | ok told =>
    constructor
    · rintro ⟨⟩
      exact ⟨_, rfl⟩
    · rintro ⟨data, ⟨⟩⟩
      rfl

theorem content_eq_some_iff : s.content? t query = some content ↔
    ∃ path place e, s.path? query = some path ∧ t.lookup path = .ok (place, e) ∧
      e.bytes? = some content := by
  rw [content?, Option.bind_eq_some_iff]
  constructor
  · rintro ⟨path, there, held⟩
    split at held
    · next place e found => exact ⟨path, place, e, there, found, held⟩
    · cases held
  · rintro ⟨path, place, e, there, found, held⟩
    refine ⟨path, there, ?_⟩
    rw [found]
    exact held

/-- It makes no difference that a file is looked at first and opened afterwards, if it is the same
both times. -/
theorem readOpened_eq (sized : ∀ content, s.content? t query = some content →
    content.length ≤ ByteRange.limit) : s.readOpened t t query range = s.read t query range := by
  by_cases large : servedLimit < range.length
  · rw [readOpened, read, if_pos large, if_pos large]
    rfl
  rw [readOpened, if_neg large, read_eq (Nat.not_lt.1 large)]
  cases told : s.status t query with
  | error e => rfl
  | ok status =>
    have present := fileFound_of_status told
    cases held : s.content? t query with
    | none =>
      rw [held, Option.isSome_none] at present
      cases s.path? query with
      | none => rfl
      | some path => simp [present, bind, Except.bind, pure, Except.pure, Except.map]
    | some content =>
      obtain ⟨path, place, e, there, found, bytes⟩ := content_eq_some_iff.1 held
      have size : status.size.toNat = content.length := by
        rw [size_of_status told held, UInt64.toNat_ofNat']
        exact Nat.mod_eq_of_lt (Nat.lt_succ_of_le (sized content held))
      rw [held, Option.isSome_some] at present
      -- A range that starts beyond the file is never read, and would have given nothing.
      by_cases starts : range.start < content.length
      · simp [there, found, bytes, present, size, starts, bind, Except.bind, pure, Except.pure,
          Except.map]
      · have past : slice content range = [] :=
          (slice_eq_nil_iff range.length_pos).2 (Nat.not_lt.1 starts)
        simp [there, size, starts, past, bind, Except.bind, pure, Except.pure, Except.map]

/-- The bytes that a range covers of what a file holds, where there is one. -/
structure Covers (content? : Option Bytes) (range : ByteRange) (data : Bytes) : Prop where
  bytes : data = range.offsets.filterMap fun offset => content?.bind (·[offset]?)
  nothing : data = [] ↔ ∀ content, content? = some content → content.length ≤ range.start
  whole : data.length = range.length ↔
    ∃ content, content? = some content ∧ range.stop < content.length

theorem covers_elim_slice (content? : Option Bytes) (small : range.length = range.size) :
    Covers content? range (content?.elim [] (slice · range)) := by
  cases content? with
  | none =>
    have none : range.length ≠ 0 := Nat.ne_of_gt range.length_pos
    exact ⟨(List.filterMap_eq_nil_iff.2 fun _ _ => rfl).symm, ⟨nofun, fun _ => rfl⟩,
      ⟨fun same => absurd same.symm none, nofun⟩⟩
  | some content =>
    refine ⟨?_, ?_, ?_⟩
    · rw [ByteRange.offsets, ← small]
      exact slice_eq_filterMap content range.length range.start
    · refine (slice_eq_nil_iff range.length_pos).trans ⟨?_, fun past => past content rfl⟩
      rintro past _ ⟨⟩
      exact past
    · refine (length_slice_eq_iff small).trans ⟨fun inside => ⟨content, rfl, inside⟩, ?_⟩
      rintro ⟨_, ⟨⟩, inside⟩
      exact inside

/-- Reading a range that may be served fails just as telling the status does, and comes with the
same status. What is read are the bytes of the file at the offsets of the range that exist; this
also holds when the file is opened by its path after it was looked at. -/
theorem reads_are_the_bytes_of_the_range (s : SharedFolders) (t : Tree) (query : FileQuery)
    (range : ByteRange) (small : range.length ≤ servedLimit) :
    (∀ e, s.read t query range = .error e ↔ s.status t query = .error e) ∧
    (∀ status, s.status t query = .ok status ↔ ∃ data, s.read t query range = .ok (status, data)) ∧
    (∀ status data, s.read t query range = .ok (status, data) →
      Covers (s.content? t query) range data) ∧
    ((∀ content, s.content? t query = some content → content.length ≤ ByteRange.limit) →
      s.readOpened t t query range = s.read t query range) := by
  refine ⟨fun _ => read_eq_error_iff small, fun _ => status_eq_ok_iff small, ?_, readOpened_eq⟩
  intro status data read
  obtain ⟨_, file?, located, rfl⟩ := read_eq_ok_iff.1 read
  have covers := covers_elim_slice (s.content? t query) (ByteRange.length_eq_size small (by decide))
  rw [content_of_locate located] at covers ⊢
  cases file? <;> exact covers

/-- A range that begins within a file of three bytes and goes beyond it. -/
theorem end_of_file_is_read :
    let shared : SharedFolders := ⟨[("b", "/srv")]⟩
    let t := Tree.empty.put ["srv", "maps", "f"] ⟨[5, 7, 9], 0, false⟩
    let range : ByteRange := ⟨1, 8, by decide, by decide⟩
    range.length ≤ servedLimit ∧ ∃ status, shared.read t ⟨"b", "maps", "f"⟩ range =
      .ok (status, [7, 9]) ∧ Covers (some [5, 7, 9]) range [7, 9] := by
  intro shared t range
  have small : range.length ≤ servedLimit := by decide
  obtain ⟨-, -, covers, -⟩ :=
    reads_are_the_bytes_of_the_range shared t ⟨"b", "maps", "f"⟩ range small
  have held : shared.content? t ⟨"b", "maps", "f"⟩ = some [5, 7, 9] := by decide +kernel
  have read : shared.read t ⟨"b", "maps", "f"⟩ range = .ok (⟨true, true, 3, "0"⟩, [7, 9]) := by
    decide +kernel
  exact ⟨small, _, read, held ▸ covers _ _ read⟩

end SharedFolders
end Files
end LocalSwarm
