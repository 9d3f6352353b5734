import LocalSwarm.Proofs.Commands.Spellings
import LocalSwarm.Proofs.Commands.Words

/-! The grammar of commands. A command is written as a list of words, which a line may lay out in any
way; what is accepted are these lines, up to the spellings of help, keys and sizes, and nothing else.
Main statement: `lines_are_understood`. -/
namespace LocalSwarm.Command

/-! ### Writing -/

/-- The pieces of a text between single spaces. -/
def pieces (text : String) : List String := (text.toList.splitOn ' ').map String.ofList

/-- The files at the root of a bucket are in no folder. -/
def writtenPath (path : String) : String := if path = "" then "-" else path

/-- The words that a command is written with. -/
def written : Command → List String
  | .help => ["h"]
  | .announce => ["a"]
  | .contacts => ["c"]
  | .state => ["i"]
  | .put key value => "p" :: key.hex :: pieces value
  | .get key => ["g", key.hex]
  | .download r =>
    ["d", r.folder, r.bucket, writtenPath r.path, r.name, toString r.size.toNat, r.version]
  | .quit => ["q"]

/-- What a command speaks of are words, apart from a value, which is made of words behind single
spaces, and from the path of a file, which may be empty but not the word for an empty one. -/
def Writable : Command → Prop
  | .put _ value => ∃ words, words ≠ [] ∧ (∀ word ∈ words, IsWord word) ∧
      value = String.intercalate " " words
  | .download r => IsWord r.folder ∧ IsWord r.bucket ∧
      (r.path = "" ∨ (IsWord r.path ∧ r.path ≠ "-")) ∧ IsWord r.name ∧ IsWord r.version
  | _ => True

/-- All words that a command is spelled with: those that it is written with, but for another word
for help, another spelling of the key and another spelling of the size. -/
inductive Spells : Command → List String → Prop
  | written (c : Command) : Spells c c.written
  | help : Spells .help ["?"]
  | put {key : Identifier} {word : String} (value : String) : SpellsKey key word →
      Spells (.put key value) ("p" :: word :: pieces value)
  | get {key : Identifier} {word : String} : SpellsKey key word → Spells (.get key) ["g", word]
  | download {r : DownloadRequest} {word : String} : SpellsSize r.size word →
      Spells (.download r) ["d", r.folder, r.bucket, writtenPath r.path, r.name, word, r.version]

theorem pieces_intercalate {words : List String} (some : words ≠ [])
    (whole : ∀ word ∈ words, IsWord word) : pieces (String.intercalate " " words) = words := by
  -- No word holds a space, so that a value comes apart just where it was put together.
  have apart : ∀ cs ∈ words.map String.toList, ' ' ∉ cs := by
    intro cs member space
    obtain ⟨word, listed, rfl⟩ := List.mem_map.1 member
    exact absurd ((whole word listed).whole ' ' space) (by decide)
  rw [pieces, String.toList_intercalate]
  refine (congrArg _ (List.splitOn_intercalate ' ' apart (mt List.map_eq_nil_iff.1 some))).trans ?_
  have same : String.ofList ∘ String.toList = id := funext fun _ => String.ofList_toList
  rw [List.map_map, same, List.map_id]

theorem isWord_hex (key : Identifier) : IsWord key.hex where
  some := fun none => by
    have size : key.hex.utf8ByteSize = 2 * 20 :=
      (Bytes.size_hex key.toBytes).trans (congrArg (2 * ·) (Bytes.length_ofNat 20 _))
    rw [none] at size
    cases size
  whole := fun c member => by
    obtain ⟨n, digit, rfl⟩ := Bytes.mem_hex member
    have all : ∀ n < 16, isBlank (Bytes.hexDigit n) = false := by decide
    exact all n digit

theorem isBlank_of_isDigit {c : Char} (digit : c.isDigit = true) : isBlank c = false := by
  obtain ⟨low, high⟩ := isDigit_iff.1 digit
  have all : ∀ n < 58, 48 ≤ n → isBlank (Char.ofNat n) = false := by decide
  rw [← Char.ofNat_toNat c]
  exact all c.toNat (by omega) low

theorem isWord_size (size : UInt64) : IsWord (toString size.toNat) where
  some := fun none => by
    have digits := congrArg String.toList none
    rw [Nat.toString_eq_ofList_toDigits, String.toList_ofList] at digits
    exact Nat.toDigits_ne_nil digits
  whole := fun c member => by
    rw [Nat.toString_eq_ofList_toDigits, String.toList_ofList] at member
    exact isBlank_of_isDigit (Nat.isDigit_of_mem_toDigits (by decide) (by decide) member)

theorem isWord_writtenPath {path : String} (writable : path = "" ∨ (IsWord path ∧ path ≠ "-")) :
    IsWord (writtenPath path) := by
  rcases writable with rfl | ⟨one, -⟩
  · decide
  · rwa [writtenPath, if_neg one.some]

/-- What a command is written with are words, so that there are lines which lay them out. -/
theorem Writable.isWord {c : Command} (writable : c.Writable) : ∀ word ∈ c.written, IsWord word := by
  cases c with
  | put key value =>
    obtain ⟨words, some, whole, rfl⟩ := writable
    rw [written, pieces_intercalate some whole]
    exact List.forall_mem_cons.2 ⟨by decide, List.forall_mem_cons.2 ⟨isWord_hex key, whole⟩⟩
  | get key => simpa [written] using ⟨by decide, isWord_hex key⟩
  | download r =>
    obtain ⟨folder, bucket, path, name, version⟩ := writable
    simpa [written] using ⟨by decide, folder, bucket, isWord_writtenPath path, name,
      isWord_size r.size, version⟩
  | _ => decide

/-- The path that a word of a download stands for. -/
def readPath (word : String) : String := if word = "-" then "" else word

theorem writtenPath_readPath {word : String} (one : IsWord word) :
    writtenPath (readPath word) = word := by
  unfold readPath
  split
  · next root => exact root.symm
  · exact if_neg one.some

theorem readPath_writtenPath {path : String} (plain : path ≠ "-") :
    readPath (writtenPath path) = path := by
  unfold writtenPath
  split
  · next root => exact root.symm
  · exact if_neg plain

theorem readPath_writable {word : String} (one : IsWord word) :
    readPath word = "" ∨ (IsWord (readPath word) ∧ readPath word ≠ "-") := by
  unfold readPath
  split
  · exact .inl rfl
  · next plain => exact .inr ⟨one, plain⟩

theorem plain_of_writable {path : String} (writable : path = "" ∨ (IsWord path ∧ path ≠ "-")) :
    path ≠ "-" := by
  rcases writable with rfl | ⟨-, plain⟩
  · decide
  · exact plain

/-! ### Reading -/

theorem ofWords_put (word : String) {words : List String} (some : words ≠ []) :
    ofWords ("p" :: word :: words) =
      (key? word).map fun key => .put key (String.intercalate " " words) := by
  obtain ⟨first, rest, rfl⟩ := List.exists_cons_of_ne_nil some
  cases read : key? word <;> simp [ofWords, read]

theorem ofWords_get (word : String) : ofWords ["g", word] = (key? word).map .get := by
  cases read : key? word <;> simp [ofWords, read]

theorem ofWords_download (folder bucket path name word version : String) :
    ofWords ["d", folder, bucket, path, name, word, version] = (size? word).map fun size =>
      .download { folder, bucket, path := readPath path, name, size, version } := by
  cases read : size? word <;> simp [ofWords, read, readPath]

theorem spells_of_ofWords {words : List String} {c : Command} (whole : ∀ word ∈ words, IsWord word)
    (read : ofWords words = some c) : c.Writable ∧ Spells c words := by
  unfold ofWords at read
  split at read
  · cases read
    exact ⟨trivial, .written .help⟩
  · cases read
    exact ⟨trivial, .help⟩
  · cases read
    exact ⟨trivial, .written .announce⟩
  · cases read
    exact ⟨trivial, .written .contacts⟩
  · cases read
    exact ⟨trivial, .written .state⟩
  · next word first rest =>
    obtain ⟨key, spelled, same⟩ := Option.bind_eq_some_iff.1 read
    cases same
    -- The words behind the key make up the value, and are its pieces again.
    have words : ∀ word ∈ first :: rest, IsWord word := fun word member =>
      whole word (.tail _ (.tail _ member))
    refine ⟨⟨first :: rest, List.cons_ne_nil _ _, words, rfl⟩, ?_⟩
    have spells := Spells.put (String.intercalate " " (first :: rest)) (key?_eq_some_iff.1 spelled)
    rwa [pieces_intercalate (List.cons_ne_nil _ _) words] at spells
  · next word =>
    obtain ⟨key, spelled, same⟩ := Option.bind_eq_some_iff.1 read
    cases same
    exact ⟨trivial, .get (key?_eq_some_iff.1 spelled)⟩
  · next folder bucket path name word version =>
    obtain ⟨size, spelled, same⟩ := Option.bind_eq_some_iff.1 read
    cases same
    simp only [List.forall_mem_cons] at whole
    obtain ⟨-, one, two, three, four, -, five, -⟩ := whole
    refine ⟨⟨one, two, readPath_writable three, four, five⟩, ?_⟩
    have spells := Spells.download (r := ⟨folder, bucket, readPath path, name, size, version⟩)
      (size?_eq_some_iff.1 spelled)
    rwa [writtenPath_readPath three] at spells
  · cases read
    exact ⟨trivial, .written .quit⟩
  · cases read

theorem spellsKey_hex (key : Identifier) : SpellsKey key key.hex := by
  refine .digits ((List.map_congr_left fun c member => ?_).trans (List.map_id _))
  obtain ⟨n, digit, rfl⟩ := Bytes.mem_hex member
  have all : ∀ n < 16, (Bytes.hexDigit n).toLower = Bytes.hexDigit n := by decide
  exact all n digit

theorem spellsSize_digits (size : UInt64) : SpellsSize size (toString size.toNat) :=
  ⟨"", 0, .inl rfl, by simp⟩

theorem ofWords_put_of_spells {key : Identifier} {word value : String}
    (writable : (Command.put key value).Writable) (spelled : SpellsKey key word) :
    ofWords ("p" :: word :: pieces value) = some (.put key value) := by
  obtain ⟨words, some, whole, rfl⟩ := writable
  rw [pieces_intercalate some whole, ofWords_put word some, key?_eq_some_iff.2 spelled, Option.map_some]

theorem ofWords_get_of_spells {key : Identifier} {word : String} (spelled : SpellsKey key word) :
    ofWords ["g", word] = some (.get key) := by
  rw [ofWords_get, key?_eq_some_iff.2 spelled, Option.map_some]

theorem ofWords_download_of_spells {r : DownloadRequest} {word : String}
    (writable : (Command.download r).Writable) (spelled : SpellsSize r.size word) :
    ofWords ["d", r.folder, r.bucket, writtenPath r.path, r.name, word, r.version] =
      some (.download r) := by
  obtain ⟨-, -, path, -, -⟩ := writable
  rw [ofWords_download, size?_eq_some_iff.2 spelled, readPath_writtenPath (plain_of_writable path),
    Option.map_some]

theorem ofWords_of_spells {words : List String} {c : Command} (writable : c.Writable)
    (spells : Spells c words) : ofWords words = some c := by
  cases spells with
  | written =>
    cases c with
    | put key => exact ofWords_put_of_spells writable (spellsKey_hex key)
    | get key => exact ofWords_get_of_spells (spellsKey_hex key)
    | download r => exact ofWords_download_of_spells writable (spellsSize_digits r.size)
    | _ => rfl
  | help => rfl
  | put _ spelled => exact ofWords_put_of_spells writable spelled
  | get spelled => exact ofWords_get_of_spells spelled
  | download spelled => exact ofWords_download_of_spells writable spelled

theorem ofWords_eq_some_iff {words : List String} {c : Command}
    (whole : ∀ word ∈ words, IsWord word) :
    ofWords words = some c ↔ c.Writable ∧ Spells c words :=
  ⟨spells_of_ofWords whole, fun spelled => ofWords_of_spells spelled.1 spelled.2⟩

/-! ### Lines -/

theorem ofLine_eq {line : String} {ws : List String} (lays : Lays line.toList ws) :
    ofLine line = ofWords ws := by
  rw [ofLine, words_eq_iff.2 lays]

/-- Every line lays out just one list of words, on which alone it depends what the line is read as.
A command is read from every line that lays out the words it is written with, and there are such
lines. A line is read as a command just if it lays out words that the command is spelled with, and no
line else is read. -/
theorem lines_are_understood (line : String) :
    (∃! ws, Lays line.toList ws) ∧
    (∀ line' ws, Lays line.toList ws → Lays line'.toList ws → ofLine line' = ofLine line) ∧
    (∀ c : Command, c.Writable → Lays line.toList c.written → ofLine line = some c) ∧
    (∀ c : Command, c.Writable → Lays (String.intercalate " " c.written).toList c.written) ∧
    (∀ c, ofLine line = some c ↔ c.Writable ∧ ∃ ws, Lays line.toList ws ∧ Spells c ws) ∧
    (ofLine line = none ↔ ∀ c ws, c.Writable → Lays line.toList ws → ¬ Spells c ws) := by
  have laid : Lays line.toList (words line) := words_eq_iff.1 rfl
  have only {ws : List String} (other : Lays line.toList ws) : ws = words line :=
    (words_eq_iff.2 other).symm
  have accepted (c : Command) :
      ofLine line = some c ↔ c.Writable ∧ ∃ ws, Lays line.toList ws ∧ Spells c ws := by
    rw [ofLine_eq laid, ofWords_eq_some_iff laid.isWord]
    refine and_congr_right fun _ => ⟨fun spells => ⟨_, laid, spells⟩, ?_⟩
    rintro ⟨ws, other, spells⟩
    rwa [← only other]
  refine ⟨⟨words line, laid, fun _ => only⟩, ?_, ?_, fun c writable => ?_, accepted, ?_⟩
  · intro line' ws lays lays'
    rw [ofLine_eq lays, ofLine_eq lays']
  · intro c writable lays
    exact (accepted c).2 ⟨writable, c.written, lays, .written c⟩
  · exact lays_intercalate writable.isWord
  · rw [Option.eq_none_iff_forall_ne_some]
    constructor
    · intro none c ws writable lays spells
      exact none c ((accepted c).2 ⟨writable, ws, lays, spells⟩)
    · intro other c read
      obtain ⟨writable, ws, lays, spells⟩ := (accepted c).1 read
      exact other c ws writable lays spells

namespace Sample

def request : DownloadRequest := ⟨"/tmp", "photos", "", "a.jpg", 7, "v1"⟩

/-- A download with blanks of several kinds, and with a size that is spelled otherwise. -/
def line : String := "\u3000d\t/tmp  photos\u2003- a.jpg +007\u0085v1\r\n"

def lineWords : List String := ["d", "/tmp", "photos", "-", "a.jpg", "+007", "v1"]

end Sample

open Sample in
theorem size_is_spelled_otherwise : Lays line.toList lineWords ∧ (download request).Writable ∧
    Spells (.download request) lineWords ∧ ofLine line = some (.download request) := by
  have lays : Lays line.toList lineWords := words_eq_iff.1 (by decide)
  have writable : (download request).Writable :=
    ⟨by decide, by decide, .inl rfl, by decide, by decide⟩
  have spells : Spells (.download request) lineWords := .download ⟨"+", 2, .inr rfl, by decide⟩
  have read := ((lines_are_understood line).2.2.2.2.1 (.download request)).2
    ⟨writable, lineWords, lays, spells⟩
  exact ⟨lays, writable, spells, read⟩

end LocalSwarm.Command
