import LocalSwarm.Proofs.Wire.Limits
import LocalSwarm.Proofs.Wire.Readers
import LocalSwarm.Proofs.Wire.Texts

/-! Which bytes are read as a field. Each field within its limits is read from what is written of
it and from nothing else; only a flag is also read from bytes that are not written. -/
namespace LocalSwarm.Wire

variable {α β : Type}

/-- `ofNat` and `toNat` make a type of the numbers that so many bytes can hold. -/
theorem reads_number (width : Nat) (ofNat : Nat → α) (toNat : α → Nat)
    (back : ∀ a, ofNat (toNat a) = a) (low : ∀ a, toNat a < Nat.pow 256 width)
    (forth : ∀ n, n < Nat.pow 256 width → toNat (ofNat n) = n) :
    Reads (take width >>= fun bytes => pure (ofNat (Bytes.toNat bytes)))
      (WrittenAs (fun a => Bytes.ofNat width (toNat a)) fun _ => True) :=
  ((reads_take width).map fun bytes => ofNat (Bytes.toNat bytes)).congr fun a used => by
    constructor
    · rintro ⟨_, rfl, rfl, rfl⟩
      refine ⟨trivial, ?_⟩
      change used = Bytes.ofNat used.length (toNat (ofNat (Bytes.toNat used)))
      rw [forth _ (Bytes.toNat_lt used), Bytes.ofNat_toNat]
    · rintro ⟨-, rfl⟩
      refine ⟨_, Bytes.length_ofNat width _, ?_, rfl⟩
      rw [Bytes.toNat_ofNat, Nat.mod_eq_of_lt (low a), back]

theorem reads_word16 : Reads readWord16 (WrittenAs word16 fun _ => True) :=
  reads_number 2 UInt16.ofNat UInt16.toNat (fun _ => UInt16.ofNat_toNat) UInt16.toNat_lt
    fun n low => by rw [UInt16.toNat_ofNat']; exact Nat.mod_eq_of_lt low

theorem reads_word32 : Reads readWord32 (WrittenAs word32 fun _ => True) :=
  reads_number 4 UInt32.ofNat UInt32.toNat (fun _ => UInt32.ofNat_toNat) UInt32.toNat_lt
    fun n low => by rw [UInt32.toNat_ofNat']; exact Nat.mod_eq_of_lt low

theorem reads_word64 : Reads readWord64 (WrittenAs word64 fun _ => True) :=
  reads_number 8 UInt64.ofNat UInt64.toNat (fun _ => UInt64.ofNat_toNat) UInt64.toNat_lt
    fun n low => by rw [UInt64.toNat_ofNat']; exact Nat.mod_eq_of_lt low

theorem reads_identifier : Reads readIdentifier (WrittenAs Identifier.toBytes fun _ => True) :=
  reads_number 20 (fun n => (⟨BitVec.ofNat 160 n⟩ : Identifier)) Identifier.toNat
    (fun id => congrArg Identifier.mk (by
      rw [Identifier.toNat, BitVec.ofNat_toNat, BitVec.setWidth_eq]))
    (fun id => id.bits.isLt) fun n low => by
      rw [Identifier.toNat, BitVec.toNat_ofNat]
      exact Nat.mod_eq_of_lt low

theorem reads_byte : Reads readByte (WrittenAs (fun byte => [byte]) fun _ => True) :=
  ((reads_take 1).map fun bytes => bytes.headD 0).congr fun byte used => by
    constructor
    · rintro ⟨bytes, one, rfl, rfl⟩
      obtain ⟨byte, rfl⟩ := List.length_eq_one_iff.1 one
      exact ⟨trivial, rfl⟩
    · rintro ⟨-, rfl⟩
      exact ⟨[byte], rfl, rfl, rfl⟩

/-- What follows a first byte may be read in a way that depends on it. -/
theorem Reads.tagged {next : UInt8 → Reader α} {write : α → Bytes} {Fits : α → Prop}
    (headed : ∀ a, write a ≠ [])
    (rest : ∀ tag, Reads (next tag) fun a used => Fits a ∧ write a = tag :: used) :
    Reads (readByte >>= next) (WrittenAs write Fits) :=
  (reads_byte.bind rest).congr fun a used => by
    rw [followed_writtenAs]
    constructor
    · rintro ⟨tag, -, back, ⟨fits, written⟩, rfl⟩
      exact ⟨fits, written.symm⟩
    · rintro ⟨fits, rfl⟩
      obtain ⟨tag, back, written⟩ := List.exists_cons_of_ne_nil (headed a)
      exact ⟨tag, trivial, back, ⟨fits, written⟩, written⟩

theorem reads_flag : Reads readFlag fun b used => ∃ mark : UInt8, (mark != 0) = b ∧ used = [mark] :=
  (reads_byte.map (· != 0)).congr fun b used => by
    simp only [true_and, eq_comm (a := b)]

/-- Lengths and counts up to the limit are written without loss. -/
theorem exists_word16 {n : Nat} (low : n ≤ shortLimit) :
    ∃ count : UInt16, count.toNat = n ∧ word16 count = Bytes.ofNat 2 n := by
  have same : (UInt16.ofNat n).toNat = n := by
    rw [UInt16.toNat_ofNat']
    exact Nat.mod_eq_of_lt (Nat.lt_succ_of_le low)
  exact ⟨UInt16.ofNat n, same, by rw [word16, same]⟩

theorem reads_ascii {bytes : Bytes} :
    Reads (if isAscii bytes then pure (ofAscii bytes) else fail .nonAscii) fun s used =>
      (∀ c ∈ s.toList, c.toNat < 128) ∧ utf8 s = bytes ∧ used = [] := by
  by_cases ascii : isAscii bytes = true
  · rw [if_pos ascii]
    refine (reads_pure (ofAscii bytes)).congr fun s used => ?_
    constructor
    · rintro ⟨rfl, rfl⟩
      exact ⟨ascii_ofAscii ascii, utf8_ofAscii ascii, rfl⟩
    · rintro ⟨plain, rfl, rfl⟩
      exact ⟨(ofAscii_utf8 plain).symm, rfl⟩
  · rw [if_neg ascii]
    refine (reads_fail _).congr fun s used => iff_of_false id ?_
    rintro ⟨plain, rfl, -⟩
    exact ascii (isAscii_utf8 plain)

theorem Plain.length_utf8_le {s : String} (plain : Plain s) : (utf8 s).length ≤ shortLimit := by
  rw [length_utf8]
  exact plain.short

theorem Plain.text {s : String} (plain : Plain s) :
    text s = Bytes.ofNat 2 (utf8 s).length ++ utf8 s := by
  rw [Wire.text, List.take_of_length_le plain.length_utf8_le]

theorem reads_text : Reads readText (WrittenAs text Plain) :=
  (reads_word16.bind fun length =>
    (reads_take length.toNat).bind fun _ => reads_ascii).congr fun s used => by
    simp only [followed_writtenAs]
    constructor
    · rintro ⟨length, -, _, ⟨bytes, count, _, ⟨ascii, same, rfl⟩, rfl⟩, rfl⟩
      subst same
      have plain : Plain s := ⟨ascii, by
        rw [← length_utf8, count]
        exact Nat.le_of_lt_succ length.toNat_lt⟩
      refine ⟨plain, ?_⟩
      rw [plain.text, count, List.append_nil]
      rfl
    · rintro ⟨plain, rfl⟩
      obtain ⟨count, same, written⟩ := exists_word16 plain.length_utf8_le
      refine ⟨count, trivial, utf8 s, ⟨utf8 s, same.symm, [], ⟨plain.ascii, rfl, rfl⟩, ?_⟩, ?_⟩
      · exact (List.append_nil _).symm
      · rw [written, plain.text]

theorem reads_blob : Reads readBlob (WrittenAs blob fun bytes => bytes.length < blobLimit) :=
  (reads_word32.bind fun length => reads_take length.toNat).congr fun bytes used => by
    simp only [followed_writtenAs]
    constructor
    · rintro ⟨length, -, _, ⟨count, rfl⟩, rfl⟩
      have low := length.toNat_lt
      rw [← count] at low
      refine ⟨low, ?_⟩
      rw [blob, count]
      rfl
    · rintro ⟨low, rfl⟩
      have same : bytes.length = (UInt32.ofNat bytes.length).toNat := by
        rw [UInt32.toNat_ofNat']
        exact (Nat.mod_eq_of_lt low).symm
      exact ⟨UInt32.ofNat bytes.length, trivial, bytes, ⟨same, rfl⟩, by rw [word32, ← same, blob]⟩

theorem readMore_succ (read : Reader α) (count : Nat) (done : List α) :
    readMore read (count + 1) done = read >>= fun a => readMore read count (a :: done) := by
  funext bytes
  rw [bind_apply]
  rfl

theorem reads_readMore {read : Reader α} {write : α → Bytes} {Fits : α → Prop}
    (h : Reads read (WrittenAs write Fits)) (count : Nat) (done : List α) :
    Reads (readMore read count done) fun as used =>
      ∃ new, as = done.reverse ++ new ∧ new.length = count ∧ (∀ a ∈ new, Fits a) ∧
        used = new.flatMap write := by
  induction count generalizing done with
  | zero =>
    refine (reads_pure done.reverse).congr fun as used => ?_
    constructor
    · rintro ⟨rfl, rfl⟩
      exact ⟨[], (List.append_nil _).symm, rfl, nofun, rfl⟩
    · rintro ⟨new, rfl, empty, -, rfl⟩
      rw [List.length_eq_zero_iff.1 empty]
      exact ⟨List.append_nil _, rfl⟩
  | succ count ih =>
    rw [readMore_succ]
    refine (h.bind fun a => ih (a :: done)).congr fun as used => ?_
    simp only [followed_writtenAs]
    constructor
    · rintro ⟨a, fits, _, ⟨new, rfl, length, all, rfl⟩, rfl⟩
      refine ⟨a :: new, ?_, congrArg Nat.succ length, ?_, rfl⟩
      · rw [List.reverse_cons, List.append_assoc]
        rfl
      · exact List.forall_mem_cons.2 ⟨fits, all⟩
    · rintro ⟨new, rfl, length, all, rfl⟩
      obtain ⟨a, new, rfl⟩ := List.exists_cons_of_length_eq_add_one length
      obtain ⟨fits, all⟩ := List.forall_mem_cons.1 all
      refine ⟨a, fits, _, ⟨new, ?_, Nat.succ.inj length, all, rfl⟩, rfl⟩
      rw [List.reverse_cons, List.append_assoc]
      rfl

theorem reads_list {read : Reader α} {write : α → Bytes} {Fits : α → Prop}
    (h : Reads read (WrittenAs write Fits)) (count : Nat) :
    Reads (readList read count)
      (WrittenAs (List.flatMap write) fun as => as.length = count ∧ ∀ a ∈ as, Fits a) :=
  (reads_readMore h count []).congr fun as used => by
    simp only [List.reverse_nil, List.nil_append, exists_eq_left', WrittenAs, and_assoc]

/-- Buckets and peers are both read as a count and as many elements. -/
def readCounted (read : Reader α) : Reader (List α) := do
  let count ← readWord16
  readList read count.toNat

theorem reads_counted {read : Reader α} {write : α → Bytes} {Fits : α → Prop}
    (h : Reads read (WrittenAs write Fits)) :
    Reads (readCounted read) (WrittenAs (fun as => Bytes.ofNat 2 as.length ++ as.flatMap write)
      fun as => as.length ≤ shortLimit ∧ ∀ a ∈ as, Fits a) :=
  (reads_word16.bind fun count => reads_list h count.toNat).congr fun as used => by
    rw [followed_writtenAs]
    constructor
    · rintro ⟨count, -, _, ⟨⟨length, all⟩, rfl⟩, rfl⟩
      refine ⟨⟨length ▸ Nat.le_of_lt_succ count.toNat_lt, all⟩, ?_⟩
      change word16 count ++ _ = Bytes.ofNat 2 as.length ++ _
      rw [length, word16]
    · rintro ⟨⟨few, all⟩, rfl⟩
      obtain ⟨count, same, written⟩ := exists_word16 few
      exact ⟨count, trivial, _, ⟨⟨same.symm, all⟩, rfl⟩, by rw [written]⟩

end LocalSwarm.Wire
