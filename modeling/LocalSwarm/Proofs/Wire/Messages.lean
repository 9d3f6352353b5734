import Mathlib.Data.List.Infix
import LocalSwarm.Proofs.Wire.Bodies

/-! Which bytes are read as a message or an announcement. What fits is read back from what is
written of it; bytes that are accepted differ from what is written of their message in their flags
and in their marks for yes at most; and no bytes that are accepted begin others that are. -/
namespace LocalSwarm

-- Comparing bytes symbol by symbol would write out all digits of a number.
attribute [local irreducible] Bytes.ofNat

open Wire (Reads WrittenAs)

namespace Announcement

theorem reads_announcement : Reads read (WrittenAs encode Announcement.Fits) := by
  refine Reads.whole (fun _ => True) (Wire.reads_word32.field correlation fun correlation =>
    Wire.reads_word16.field version fun version => Wire.reads_word16.field port fun port =>
      Wire.reads_text.last machine ?known) ?limits ?written
  case known =>
    exact fun _ a =>
      ⟨by rintro ⟨rfl, rfl, rfl, rfl, -⟩; rfl, by rintro rfl; exact ⟨rfl, rfl, rfl, rfl, trivial⟩⟩
  case limits =>
    exact fun a => ⟨fun ⟨_, _, _, _, machine⟩ => machine,
      fun machine => ⟨trivial, trivial, trivial, trivial, machine⟩⟩
  case written => exact fun a => by simp only [encode, List.append_assoc]

theorem decode_eq_ok_iff {bytes : Bytes} {a : Announcement} :
    decode bytes = .ok a ↔ a.Fits ∧ bytes = a.encode := reads_announcement.readAll_eq_ok_iff

end Announcement

namespace Message

/-- The bytes of a message before the answers with yes or no. -/
def header (m : Message) (flags : UInt8) : Bytes :=
  m.body.operation.code :: flags :: (Wire.word32 m.correlation ++ Wire.sender m.sender)

/-- The bytes of a message under other flags and with other marks for yes and no. -/
def spelling (m : Message) (flags : UInt8) (marks : Bytes) : Bytes :=
  m.header flags ++ (marks ++ m.body.details)

/-- The bytes that are read as a message. -/
def Spells (m : Message) (used : Bytes) : Prop :=
  m.Fits ∧ ∃ flags marks, m.body.Announced flags ∧ marks.map (· != 0) = m.body.answers ∧
    used = m.spelling flags marks

theorem reads_message : Reads read Spells := by
  refine (Wire.reads_operation.bind fun operation => Wire.reads_byte.bind fun flags =>
    Wire.reads_word32.bind fun correlation => Wire.reads_sender.bind fun sender =>
      (Wire.reads_body operation flags).bind fun body =>
        Wire.reads_pure (Message.mk correlation sender body)).congr fun m used => ?_
  simp only [Wire.followed_writtenAs]
  constructor
  · rintro ⟨operation, -, _, ⟨flags, -, _, ⟨correlation, -, _, ⟨sender, plain, _,
      ⟨body, _, _, ⟨⟨rfl, announced, fits⟩, marks, marked, rfl⟩, ⟨rfl, rfl⟩, rfl⟩, rfl⟩, rfl⟩,
      rfl⟩, rfl⟩
    refine ⟨⟨plain, fits⟩, flags, marks, announced, marked, ?_⟩
    simp [spelling, header]
  · rintro ⟨⟨plain, fits⟩, flags, marks, announced, marked, rfl⟩
    refine ⟨_, trivial, _, ⟨flags, trivial, _, ⟨m.correlation, trivial, _, ⟨m.sender, plain, _,
      ⟨m.body, _, [], ⟨⟨rfl, announced, fits⟩, marks, marked, rfl⟩, ⟨rfl, rfl⟩, rfl⟩, rfl⟩, rfl⟩,
      rfl⟩, ?_⟩
    simp [spelling, header]

theorem decode_eq_ok_iff {bytes : Bytes} {m : Message} : decode bytes = .ok m ↔ m.Spells bytes :=
  reads_message.readAll_eq_ok_iff

/-! ### What is written -/

theorem encode_eq_spelling (m : Message) :
    m.encode = m.spelling (Wire.bodyFlags m.body) (m.body.answers.flatMap Wire.flag) := by
  have body : Wire.body m.body = m.body.answers.flatMap Wire.flag ++ m.body.details := by
    obtain ⟨correlation, sender, r | r | ⟨operation, text⟩⟩ := m
    · rfl
    · cases r <;> simp [Wire.body, Body.answers, Body.details, Response.answers, Response.details,
        Wire.response, Wire.fileStatus]
    · rfl
  simp [encode, spelling, header, Wire.sender, body]

theorem announced_bodyFlags (b : Body) : b.Announced (Wire.bodyFlags b) := by
  cases b with
  | request => exact (by decide : (0 : UInt8) &&& 2 = 0 ∧ (0 : UInt8) &&& 1 = 0)
  | response => exact (by decide : (1 : UInt8) &&& 2 = 0 ∧ (1 : UInt8) &&& 1 ≠ 0)
  | failure => exact (by decide : (3 : UInt8) &&& 2 ≠ 0)

theorem map_flags (answers : List Bool) : (answers.flatMap Wire.flag).map (· != 0) = answers := by
  induction answers with
  | nil => rfl
  | cons answer answers ih =>
    rw [List.flatMap_cons, List.map_append, ih]
    cases answer <;> rfl

theorem decode_encode {m : Message} (fits : m.Fits) : decode m.encode = .ok m :=
  decode_eq_ok_iff.2 ⟨fits, _, _, announced_bodyFlags m.body, map_flags _, encode_eq_spelling m⟩

/-! ### What is read -/

/-- The places of the answers with yes or no. Before them are thirty bytes and the machine of the
sender. -/
def answerPlaces (m : Message) : List Nat :=
  List.range' (30 + m.sender.machine.utf8ByteSize) m.body.answers.length

/-- What bytes that are read as a message have in common with those that are written of it. -/
structure ReadFrom (m : Message) (bytes : Bytes) : Prop where
  fits : m.Fits
  length : m.encode.length = bytes.length
  elsewhere : ∀ i, i ≠ 1 → i ∉ m.answerPlaces → m.encode[i]? = bytes[i]?
  answers : m.answerPlaces.map (fun i => bytes[i]?.map (· != 0)) = m.body.answers.map some
  same_iff : m.encode = bytes ↔ (bytes[1]? = some 0 ∨ bytes[1]? = some 1 ∨ bytes[1]? = some 3) ∧
    ∀ i ∈ m.answerPlaces, bytes[i]? = some 0 ∨ bytes[i]? = some 1

theorem length_header {m : Message} (fits : m.Fits) (flags : UInt8) :
    (m.header flags).length = 30 + m.sender.machine.utf8ByteSize := by
  rw [header, Wire.sender, fits.sender.text]
  simp [Wire.word32, Wire.word16, Identifier.toBytes, Bytes.length_ofNat, Wire.length_utf8]
  omega

theorem getElem?_spelling_eq {m : Message} (fits : m.Fits) {flags flags' : UInt8}
    {marks marks' : Bytes} (counted : marks.length = m.body.answers.length)
    (same : marks'.length = marks.length) {i : Nat} (noFlags : i ≠ 1)
    (noMark : i ∉ m.answerPlaces) :
    (m.spelling flags marks)[i]? = (m.spelling flags' marks')[i]? := by
  have size := length_header fits
  have headers : (m.header flags)[i]? = (m.header flags')[i]? := by
    match i with
    | 0 => rfl
    | 1 => exact absurd rfl noFlags
    | i + 2 => rfl
  rw [answerPlaces, List.mem_range'_1, ← counted] at noMark
  unfold spelling
  rcases Nat.lt_or_ge i (30 + m.sender.machine.utf8ByteSize) with before | behind
  · rw [List.getElem?_append_left (by rw [size]; exact before),
      List.getElem?_append_left (by rw [size]; exact before), headers]
  · rw [List.getElem?_append_right (by rw [size]; exact behind), size,
      List.getElem?_append_right (by omega), eq_comm,
      List.getElem?_append_right (by rw [size]; exact behind), size,
      List.getElem?_append_right (by omega), same]

theorem map_answerPlaces {m : Message} (fits : m.Fits) (flags : UInt8) {marks : Bytes}
    (counted : marks.length = m.body.answers.length) :
    m.answerPlaces.map (fun i => (m.spelling flags marks)[i]?) = marks.map some := by
  have size := length_header fits flags
  refine List.ext_getElem (by simp [answerPlaces, counted]) fun i inPlaces inMarks => ?_
  rw [List.length_map] at inMarks
  simp only [answerPlaces, List.getElem_map, List.getElem_range', Nat.one_mul, spelling]
  rw [List.getElem?_append_right (by omega), size, Nat.add_sub_cancel_left,
    List.getElem?_append_left inMarks, List.getElem?_eq_getElem inMarks]

theorem spelling_inj {m : Message} {flags flags' : UInt8} {marks marks' : Bytes} :
    m.spelling flags marks = m.spelling flags' marks' ↔ flags = flags' ∧ marks = marks' := by
  constructor
  · intro same
    have tails := List.cons.inj (List.cons.inj same).2
    refine ⟨tails.1, ?_⟩
    exact List.append_cancel_right (List.append_cancel_left tails.2)
  · rintro ⟨rfl, rfl⟩
    rfl

theorem bodyFlags_eq_iff {b : Body} {flags : UInt8} (announced : b.Announced flags) :
    Wire.bodyFlags b = flags ↔ flags = 0 ∨ flags = 1 ∨ flags = 3 := by
  constructor
  · rintro rfl
    cases b <;> simp [Wire.bodyFlags]
  · intro known
    cases b with
    | request =>
      rcases known with rfl | rfl | rfl
      · rfl
      · exact absurd announced.2 (by decide)
      · exact absurd announced.1 (by decide)
    | response =>
      rcases known with rfl | rfl | rfl
      · exact absurd (by decide) announced.2
      · rfl
      · exact absurd announced.1 (by decide)
    | failure =>
      rcases known with rfl | rfl | rfl
      · exact absurd (by decide : (0 : UInt8) &&& 2 = 0) announced
      · exact absurd (by decide : (1 : UInt8) &&& 2 = 0) announced
      · rfl

theorem marks_eq_iff (marks : Bytes) :
    (marks.map (· != 0)).flatMap Wire.flag = marks ↔ ∀ mark ∈ marks, mark = 0 ∨ mark = 1 := by
  induction marks with
  | nil => exact iff_of_true rfl nofun
  | cons mark marks ih =>
    rw [List.forall_mem_cons, ← ih, List.map_cons, List.flatMap_cons]
    by_cases no : mark = 0
    · subst no
      simp [Wire.flag]
    · have yes : (mark != 0) = true := by simpa using no
      rw [yes, Wire.flag, if_pos rfl, List.singleton_append, List.cons.injEq, eq_comm]
      exact and_congr_left' (or_iff_right no).symm

theorem Spells.readFrom {m : Message} {bytes : Bytes} (spelled : m.Spells bytes) :
    m.ReadFrom bytes := by
  obtain ⟨fits, flags, marks, announced, marked, rfl⟩ := spelled
  have counted : marks.length = m.body.answers.length := by rw [← marked, List.length_map]
  have flagged : (m.body.answers.flatMap Wire.flag).length = marks.length := by
    rw [counted, List.length_flatMap]
    simp [Wire.flag]
  have places := map_answerPlaces fits flags counted
  refine ⟨fits, ?length, ?elsewhere, ?answers, ?same⟩
  case length => simp [encode_eq_spelling, spelling, header, flagged]
  case elsewhere =>
    intro i noFlags noMark
    rw [encode_eq_spelling]
    exact (getElem?_spelling_eq fits counted flagged noFlags noMark).symm
  case answers =>
    rw [← marked, List.map_map]
    have := congrArg (List.map (Option.map (· != 0))) places
    simpa [List.map_map, Function.comp_def] using this
  case same =>
    have each : (∀ i ∈ m.answerPlaces, (m.spelling flags marks)[i]? = some 0 ∨
        (m.spelling flags marks)[i]? = some 1) ↔ ∀ mark ∈ marks, mark = 0 ∨ mark = 1 := by
      have := congrArg (fun found => ∀ mark ∈ found, mark = some (0 : UInt8) ∨ mark = some 1) places
      simpa using this
    rw [encode_eq_spelling, spelling_inj, bodyFlags_eq_iff announced, each, ← marked, marks_eq_iff]
    simp [spelling, header]

end Message

namespace Wire

def studio : Announcement := ⟨7, 1, 4400, "studio"⟩

def neighbours : Message :=
  ⟨7, ⟨⟨1⟩, 4400, "studio"⟩, .response (.findValue (.closer
    [⟨⟨2⟩, "loft", .v4 0x0a000002 4401⟩,
      ⟨⟨3⟩, "", .v6 0xfe800000000000000000000000000003 4402 0 0⟩]))⟩

def confirmed : Message := ⟨8, ⟨⟨1⟩, 4400, "studio"⟩, .response (.store true)⟩

def chunkRequest : Message :=
  ⟨9, ⟨⟨1⟩, 4400, "studio"⟩,
    .request (.download ⟨"photos", "2024", "tree.jpg"⟩ ⟨1024, 2047, by decide, by decide⟩)⟩

/-- What fits is read back as it was. -/
theorem written_messages_are_read_back :
    (∀ a : Announcement, a.Fits → Announcement.decode a.encode = .ok a) ∧
      ∀ m : Message, m.Fits → Message.decode m.encode = .ok m :=
  ⟨fun _ fits => Announcement.decode_eq_ok_iff.2 ⟨fits, rfl⟩, fun _ => Message.decode_encode⟩

theorem plain_studio : Plain "studio" := plain_of_all (by decide) (by decide +kernel)

theorem neighbours_fit : neighbours.Fits := by
  refine ⟨plain_studio, by decide, fun p member => ?_⟩
  rcases List.mem_pair.1 member with rfl | rfl
  · exact ⟨plain_of_all (by decide) (by decide +kernel), trivial⟩
  · exact ⟨plain_of_all (by decide) (by decide +kernel), rfl, rfl⟩

theorem neighbours_are_read_back :
    studio.Fits ∧ Announcement.decode studio.encode = .ok studio ∧
      neighbours.Fits ∧ Message.decode neighbours.encode = .ok neighbours :=
  ⟨plain_studio, written_messages_are_read_back.1 studio plain_studio,
    neighbours_fit, written_messages_are_read_back.2 neighbours neighbours_fit⟩

/-- What is accepted fits, and what is written of it are the bytes that it was read from, but for
the flags and the marks for yes. -/
theorem accepted_messages_are_written_back :
    (∀ bytes m, Message.decode bytes = .ok m → m.ReadFrom bytes) ∧
      ∀ bytes a, Announcement.decode bytes = .ok a → a.encode = bytes :=
  ⟨fun _ _ accepted => (Message.decode_eq_ok_iff.1 accepted).readFrom,
    fun _ _ accepted => (Announcement.decode_eq_ok_iff.1 accepted).2.symm⟩

/-- Of the flags, a bit is set that is never written, and nine stands for yes. -/
theorem decode_confirmed : Message.decode (confirmed.spelling 5 [9]) = .ok confirmed :=
  Message.decode_eq_ok_iff.2 ⟨⟨plain_studio, trivial⟩, 5, [9],
    (by decide : (5 : UInt8) &&& 2 = 0 ∧ (5 : UInt8) &&& 1 ≠ 0), by decide, rfl⟩

def studioBytes : Bytes :=
  [0, 0, 0, 7, 0, 1, 0x11, 0x30, 0, 6, 0x73, 0x74, 0x75, 0x64, 0x69, 0x6f]

theorem decode_studioBytes : Announcement.decode studioBytes = .ok studio :=
  Announcement.decode_eq_ok_iff.2 ⟨plain_studio, by decide +kernel⟩

theorem confirmed_is_written_back :
    Message.decode (confirmed.spelling 5 [9]) = .ok confirmed ∧
      confirmed.ReadFrom (confirmed.spelling 5 [9]) ∧ confirmed.encode ≠ confirmed.spelling 5 [9] ∧
      Announcement.decode studioBytes = .ok studio ∧ studio.encode = studioBytes := by
  have read := accepted_messages_are_written_back.1 _ _ decode_confirmed
  refine ⟨decode_confirmed, read, fun same => ?_, decode_studioBytes,
    accepted_messages_are_written_back.2 _ _ decode_studioBytes⟩
  have known := (read.same_iff.1 same).1
  simp [Message.spelling, Message.header] at known

/-- No accepted bytes begin others that are accepted, and whatever they lack or have too much is
reported. -/
theorem accepted_messages_are_delimited :
    (∀ bytes m, Message.decode bytes = .ok m → Delimited Message.decode bytes) ∧
      ∀ bytes a, Announcement.decode bytes = .ok a → Delimited Announcement.decode bytes :=
  ⟨fun _ _ accepted => Message.reads_message.delimited accepted,
    fun _ _ accepted => Announcement.reads_announcement.delimited accepted⟩

theorem chunkRequest_fits : chunkRequest.Fits := by
  refine ⟨plain_studio, ⟨?_, ?_, ?_⟩, by decide⟩
  all_goals exact plain_of_all (by decide) (by decide +kernel)

theorem chunk_request_is_delimited :
    Message.decode chunkRequest.encode = .ok chunkRequest ∧
      Delimited Message.decode chunkRequest.encode ∧
      Announcement.decode studioBytes = .ok studio ∧ Delimited Announcement.decode studioBytes :=
  have read := Message.decode_encode chunkRequest_fits
  ⟨read, accepted_messages_are_delimited.1 _ _ read, decode_studioBytes,
    accepted_messages_are_delimited.2 _ _ decode_studioBytes⟩

end Wire
end LocalSwarm
