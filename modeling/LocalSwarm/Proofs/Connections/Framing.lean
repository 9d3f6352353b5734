import LocalSwarm.Proofs.Connections.Streams

/-! What is read off a stream on which frames were written, wherever the stream ends. Main statement:
`written_frames_are_read_back`. -/
namespace LocalSwarm.Frame

-- Comparing lengths symbol by symbol would write out all digits of a number.
attribute [local irreducible] Bytes.ofNat

variable {bodies whole : List Bytes} {body front part tail : Bytes} {cause : TransportError}

/-! ### Where nothing can be read -/

theorem announced_framed (short : body.length ≤ limit) (rest : Bytes) :
    announced (framed body ++ rest) = body.length := by
  rw [announced, framed, List.append_assoc, List.take_left' (Bytes.length_ofNat 4 _),
    toNat_length short]

theorem read_of_stuck (stuck : Stuck tail cause) : read tail = .error cause := by
  simp only [read, List.splitAt_eq, List.length_take, List.length_drop]
  cases stuck with
  | closed short => rw [if_pos (by omega)]
  | tooLarge begun large =>
    rw [if_neg (by omega)]
    exact if_pos large
  | cutOff begun fits short =>
    rw [announced] at fits short
    rw [if_neg (by omega), if_neg (by omega), if_pos (by omega)]

/-- Nothing can be read exactly where no frame stands. -/
theorem read_eq_error_iff : read tail = .error cause ↔ Stuck tail cause :=
  ⟨stuck_of_read, read_of_stuck⟩

/-- What is missing of a part of a frame shows in how its reading ends. -/
theorem stuck_part (short : body.length ≤ limit) (begins : part <+: framed body)
    (fewer : part.length < (framed body).length) :
    Stuck part (if part.length < 4 then .closed else .io) := by
  by_cases few : part.length < 4
  · rw [if_pos few]
    exact .closed few
  · have length : announced part = body.length := by
      obtain ⟨missing, spelled⟩ := begins
      have whole := announced_framed short []
      rwa [List.append_nil, ← spelled, announced, List.take_append_of_le_length (by omega)] at whole
    rw [framed, List.length_append, Bytes.length_ofNat] at fewer
    rw [if_neg few]
    exact .cutOff (by omega) (length ▸ short) (length ▸ fewer)

/-! ### Frames one after the other -/

theorem readAll_frames (short : ∀ body ∈ whole, body.length ≤ limit) (rest : Bytes) :
    readAll (whole.flatMap framed ++ rest) = (whole ++ (readAll rest).1, (readAll rest).2) := by
  induction whole with
  | nil => rfl
  | cons body whole ih =>
    obtain ⟨first, others⟩ := List.forall_mem_cons.1 short
    rw [List.flatMap_cons, List.append_assoc, readAll_framed first, ih others]
    rfl

/-- What is written of bodies one after the other. A body that is refused leaves nothing behind. -/
def written (bodies : List Bytes) : Bytes :=
  bodies.flatMap fun body =>
    match write body with
    | .ok bytes => bytes
    | .error _ => []

/-- The bodies that a frame can carry. -/
def carried (bodies : List Bytes) : List Bytes := bodies.filter fun body => body.length ≤ limit

theorem short_of_mem_carried (member : body ∈ carried bodies) : body.length ≤ limit :=
  of_decide_eq_true (List.mem_filter.1 member).2

theorem written_eq (bodies : List Bytes) : written bodies = (carried bodies).flatMap framed := by
  induction bodies with
  | nil => rfl
  | cons body bodies ih =>
    rw [written, List.flatMap_cons, ← written, ih]
    by_cases short : body.length ≤ limit
    · have kept : carried (body :: bodies) = body :: carried bodies :=
        List.filter_cons_of_pos (decide_eq_true short)
      rw [kept, List.flatMap_cons, write_eq_ok_iff.2 ⟨short, rfl⟩]
      rfl
    · have refused : carried (body :: bodies) = carried bodies :=
        List.filter_cons_of_neg (by simpa using short)
      rw [refused, write, if_pos (Nat.not_le.1 short)]
      rfl

/-- A beginning of what is written of bodies: frames that are whole and, of the frame that comes
next, a part that is not the whole of it. -/
structure Breaks (bodies : List Bytes) (front : Bytes) (whole : List Bytes) (part : Bytes) :
    Prop where
  spelled : front = whole.flatMap framed ++ part
  next : carried bodies = whole ∧ part = [] ∨
    ∃ body rest, carried bodies = whole ++ body :: rest ∧ part <+: framed body ∧
      part.length < (framed body).length

/-- Every beginning of frames breaks within one of them or right in front of it. -/
theorem exists_break (begins : front <+: bodies.flatMap framed) :
    ∃ whole part, front = whole.flatMap framed ++ part ∧ (bodies = whole ∧ part = [] ∨
      ∃ body rest, bodies = whole ++ body :: rest ∧ part <+: framed body ∧
        part.length < (framed body).length) := by
  induction bodies generalizing front with
  | nil => exact ⟨[], front, rfl, .inl ⟨rfl, List.prefix_nil.1 begins⟩⟩
  | cons body bodies ih =>
    rw [List.flatMap_cons] at begins
    rcases Nat.lt_or_ge front.length (framed body).length with fewer | enough
    · have inside := List.prefix_of_prefix_length_le begins (List.prefix_append ..) fewer.le
      exact ⟨[], front, rfl, .inr ⟨body, bodies, rfl, inside, fewer⟩⟩
    · obtain ⟨more, rfl⟩ := List.prefix_of_prefix_length_le (List.prefix_append ..) begins enough
      obtain ⟨whole, part, rfl, next⟩ := ih ((List.prefix_append_right_inj _).1 begins)
      refine ⟨body :: whole, part, ?_, ?_⟩
      · rw [List.flatMap_cons, List.append_assoc]
      · rcases next with ⟨rfl, none⟩ | ⟨other, rest, rfl, inside⟩
        · exact .inl ⟨rfl, none⟩
        · exact .inr ⟨other, rest, rfl, inside⟩

theorem Breaks.readAll_eq (breaks : Breaks bodies front whole part) :
    readAll front = (whole, if part.length < 4 then .closed else .io) := by
  have short (body : Bytes) (member : body ∈ carried bodies) : body.length ≤ limit :=
    short_of_mem_carried member
  have stuck : Stuck part (if part.length < 4 then .closed else .io) := by
    rcases breaks.next with ⟨-, rfl⟩ | ⟨body, rest, all, inside, fewer⟩
    · exact .closed (Nat.zero_lt_succ 3)
    · refine stuck_part (short body ?_) inside fewer
      rw [all]
      exact List.mem_append_right _ List.mem_cons_self
  have carriedWhole : ∀ body ∈ whole, body.length ≤ limit := by
    intro body member
    refine short body ?_
    rcases breaks.next with ⟨all, -⟩ | ⟨body, rest, all, -⟩
    · rwa [all]
    · rw [all]
      exact List.mem_append_left _ member
  rw [breaks.spelled, readAll_frames carriedWhole, readAll_of_error (read_of_stuck stuck),
    List.append_nil]

/-- A body is written exactly if it is short enough for a frame, and the bodies that were written
are read back one by one. Where the stream breaks off, those are read whose frames are whole; then
it is closed if not even the length of the next frame is complete, and broken if the length is. -/
theorem written_frames_are_read_back (bodies : List Bytes) :
    (∀ body, (∃ bytes, write body = .ok bytes) ↔ body.length ≤ limit) ∧
      readAll (written bodies) = (carried bodies, .closed) ∧
      (∀ front, front <+: written bodies → ∃ whole part, Breaks bodies front whole part) ∧
      ∀ front whole part, Breaks bodies front whole part →
        readAll front = (whole, if part.length < 4 then .closed else .io) := by
  refine ⟨fun body => ?accepts, ?all, fun front begins => ?breaks, fun _ _ _ => Breaks.readAll_eq⟩
  case accepts =>
    constructor
    · rintro ⟨bytes, done⟩
      exact (write_eq_ok_iff.1 done).1
    · intro short
      exact ⟨_, write_eq_ok_iff.2 ⟨short, rfl⟩⟩
  case all =>
    have breaks : Breaks bodies (written bodies) (carried bodies) [] :=
      ⟨by rw [written_eq, List.append_nil], .inl ⟨rfl, rfl⟩⟩
    exact breaks.readAll_eq
  case breaks =>
    rw [written_eq] at begins
    obtain ⟨whole, part, spelled, next⟩ := exists_break begins
    exact ⟨whole, part, spelled, next⟩

/-- Two frames are whole, the second one of them empty; of the third one a byte is missing. -/
def brokenOff : Bytes := [0, 0, 0, 1, 7, 0, 0, 0, 0, 0, 0, 0, 3, 1, 2]

theorem broken_stream_is_read_to_its_end :
    brokenOff <+: written [[7], [], [1, 2, 3]] ∧
      (∃ whole part, Breaks [[7], [], [1, 2, 3]] brokenOff whole part) ∧
      readAll brokenOff = ([[7], []], .io) := by
  have begins : brokenOff <+: written [[7], [], [1, 2, 3]] := by decide +kernel
  have breaks : Breaks [[7], [], [1, 2, 3]] brokenOff [[7], []] [0, 0, 0, 3, 1, 2] :=
    ⟨by decide +kernel, .inr ⟨[1, 2, 3], [], by decide +kernel, by decide +kernel, by decide +kernel⟩⟩
  have read := written_frames_are_read_back [[7], [], [1, 2, 3]]
  exact ⟨begins, read.2.2.1 brokenOff begins, read.2.2.2 brokenOff _ _ breaks⟩

end LocalSwarm.Frame
