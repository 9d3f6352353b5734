import LocalSwarm.Command
import LocalSwarm.Proofs.Downloads.PartNames
import LocalSwarm.Proofs.Draws

/-! How keys and sizes are spelled. The forty digits of a key may be in either case, and a size may
have a plus sign and zeros in front; nothing else is read as a key or a size than these spellings and
the texts that keys stand for. Main statements: `key?_eq_some_iff` and `size?_eq_some_iff`. -/
namespace LocalSwarm

/-! ### Hexadecimal digits -/

namespace Bytes

theorem not_le_of_beyond {c d : Char} (beyond : 128 ≤ c.toNat) (ascii : d.toNat < 128) : ¬ c ≤ d :=
  fun le => by
    have : c.toNat ≤ d.toNat := UInt32.le_iff_toNat_le.1 le
    omega

theorem hexValue?_of_beyond {c : Char} (beyond : 128 ≤ c.toNat) : hexValue? c = none := by
  rw [hexValue?, if_neg fun both => not_le_of_beyond beyond (by decide) both.2,
    if_neg fun both => not_le_of_beyond beyond (by decide) both.2,
    if_neg fun both => not_le_of_beyond beyond (by decide) both.2]

theorem toLower_of_beyond {c : Char} (beyond : 128 ≤ c.toNat) : c.toLower = c :=
  dif_neg fun both => not_le_of_beyond (d := 'Z') beyond (by decide) both.2

theorem hexValue?_lt {c : Char} {n : Nat} (value : hexValue? c = some n) : n < 16 := by
  have all : ∀ k < 128, ∀ n ∈ hexValue? (Char.ofNat k), n < 16 := by decide +kernel
  rcases Nat.lt_or_ge c.toNat 128 with ascii | beyond
  · have bounded := all c.toNat ascii n
    rw [Char.ofNat_toNat] at bounded
    exact bounded value
  · rw [hexValue?_of_beyond beyond] at value
    cases value

/-- A digit is read in either case. -/
theorem hexValue?_eq_some_iff {c : Char} {n : Nat} (digit : n < 16) :
    hexValue? c = some n ↔ c.toLower = hexDigit n := by
  have all : ∀ k < 128, ∀ n < 16,
    hexValue? (Char.ofNat k) = some n ↔ (Char.ofNat k).toLower = hexDigit n := by decide +kernel
  rcases Nat.lt_or_ge c.toNat 128 with ascii | beyond
  · rw [← Char.ofNat_toNat c]
    exact all c.toNat ascii n digit
  · rw [hexValue?_of_beyond beyond, toLower_of_beyond beyond]
    refine iff_of_false nofun fun same => ?_
    have := (hexDigit_inside n digit).1
    rw [← same] at this
    omega

/-- The two digits of a byte. -/
def digits (byte : UInt8) : List Char := [hexDigit (byte.toNat / 16), hexDigit (byte.toNat % 16)]

theorem toList_hex (bytes : Bytes) : (hex bytes).toList = bytes.flatMap digits :=
  String.toList_ofList

theorem hexNat?_pair (high low : Char) : hexNat? [high, low] =
    (hexValue? high).bind fun h => (hexValue? low).map fun l => h * 16 + l := by
  cases first : hexValue? high <;> cases second : hexValue? low <;> simp [hexNat?, first, second]

/-- A pair of characters is read as a byte just if it is the digits of the byte, in either case. -/
theorem hexNat?_eq_some_iff {high low : Char} {byte : UInt8} :
    (∃ n, hexNat? [high, low] = some n ∧ UInt8.ofNat n = byte) ↔
      [high.toLower, low.toLower] = digits byte := by
  have small := byte.toNat_lt
  rw [hexNat?_pair, digits, List.cons.injEq, List.cons.injEq, and_iff_left rfl,
    ← hexValue?_eq_some_iff (by omega), ← hexValue?_eq_some_iff (Nat.mod_lt _ (by omega))]
  constructor
  · rintro ⟨n, read, rfl⟩
    obtain ⟨h, first, read⟩ := Option.bind_eq_some_iff.1 read
    obtain ⟨l, second, rfl⟩ := Option.map_eq_some_iff.1 read
    have := hexValue?_lt first
    have := hexValue?_lt second
    rw [UInt8.toNat_ofNat', Nat.mod_eq_of_lt (by omega), first, second]
    constructor <;> congr 1 <;> omega
  · rintro ⟨first, second⟩
    refine ⟨byte.toNat, ?_, UInt8.ofNat_toNat⟩
    rw [first, second]
    exact congrArg some (Nat.div_add_mod' _ _)

/-- The first two characters are the first byte, and the others are the other bytes. -/
theorem pair_eq {high low : Char} {rest : List Char} {byte : UInt8} {bytes : Bytes}
    (same : (high :: low :: rest).map Char.toLower = (byte :: bytes).flatMap digits) :
    [high.toLower, low.toLower] = digits byte ∧ rest.map Char.toLower = bytes.flatMap digits := by
  have split : [high.toLower, low.toLower] ++ rest.map Char.toLower =
    digits byte ++ bytes.flatMap digits := same
  exact List.append_inj split rfl

theorem pairsReversed?_eq_some_iff {text : List Char} {done out : Bytes} :
    pairsReversed? text done = some out ↔
      ∃ bytes : Bytes, out = bytes.reverse ++ done ∧ text.map Char.toLower = bytes.flatMap digits := by
  fun_induction pairsReversed? text done with
  | case1 done =>
    constructor
    · rintro ⟨⟩
      exact ⟨[], rfl, rfl⟩
    · rintro ⟨bytes, rfl, same⟩
      cases bytes with
      | nil => rfl
      | cons => cases same
  | case2 c done =>
    refine iff_of_false nofun ?_
    rintro ⟨bytes, -, same⟩
    cases bytes with
    | nil => cases same
    | cons => simp [digits] at same
  | case3 high low rest done n read ih =>
    rw [ih]
    constructor
    · rintro ⟨bytes, rfl, same⟩
      refine ⟨UInt8.ofNat n :: bytes, by rw [List.reverse_cons, List.append_assoc]; rfl, ?_⟩
      rw [List.flatMap_cons, ← hexNat?_eq_some_iff.1 ⟨n, read, rfl⟩, ← same]
      rfl
    · rintro ⟨bytes, rfl, same⟩
      cases bytes with
      | nil => cases same
      | cons byte bytes =>
        obtain ⟨pair, others⟩ := pair_eq same
        obtain ⟨m, read', rfl⟩ := hexNat?_eq_some_iff.2 pair
        cases read.symm.trans read'
        exact ⟨bytes, by rw [List.reverse_cons, List.append_assoc]; rfl, others⟩
  | case4 high low rest done none =>
    refine iff_of_false nofun ?_
    rintro ⟨bytes, -, same⟩
    cases bytes with
    | nil => cases same
    | cons byte bytes =>
      obtain ⟨pair, -⟩ := pair_eq same
      obtain ⟨m, read, -⟩ := hexNat?_eq_some_iff.2 pair
      cases none.symm.trans read

/-- A text is read as bytes just if it is that of the bytes, in either case. -/
theorem ofHex?_eq_some_iff {text : String} {bytes : Bytes} :
    ofHex? text = some bytes ↔ text.toList.map Char.toLower = (hex bytes).toList := by
  rw [ofHex?, Option.map_eq_some_iff, toList_hex]
  constructor
  · rintro ⟨out, read, rfl⟩
    obtain ⟨bytes, rfl, same⟩ := pairsReversed?_eq_some_iff.1 read
    rw [same, List.append_nil, List.reverse_reverse]
  · intro same
    refine ⟨bytes.reverse, pairsReversed?_eq_some_iff.2 ⟨bytes, (List.append_nil _).symm, same⟩, ?_⟩
    exact List.reverse_reverse bytes

end Bytes

namespace Identifier

theorem ofBytes_eq_ok_iff {bytes : Bytes} {id : Identifier} :
    ofBytes bytes = .ok id ↔ bytes = id.toBytes := by
  constructor
  · intro read
    unfold ofBytes at read
    split at read
    · next twenty =>
      cases read
      have low := Bytes.toNat_lt_two_pow bytes
      rw [twenty] at low
      rw [toBytes, toNat, BitVec.toNat_ofNat, Nat.mod_eq_of_lt low, ← twenty, Bytes.ofNat_toNat]
    · cases read
  · intro same
    have twenty : id.toBytes.length = 20 := Bytes.length_ofNat 20 _
    rw [same, ofBytes, if_pos twenty]
    exact congrArg Except.ok (ofTwenty_toBytes id)

theorem ofHex?_eq_some_iff {text : String} {id : Identifier} :
    ofHex? text = some id ↔ text.toList.map Char.toLower = id.hex.toList := by
  have decoded (bytes : Bytes) : (ofBytes bytes).toOption = some id ↔ bytes = id.toBytes := by
    rw [← ofBytes_eq_ok_iff]
    cases ofBytes bytes <;> simp [Except.toOption]
  have opened : ofHex? text = (Bytes.ofHex? text).bind fun bytes => (ofBytes bytes).toOption := rfl
  simp only [opened, Option.bind_eq_some_iff, decoded, exists_eq_right, Bytes.ofHex?_eq_some_iff, hex]

end Identifier

namespace Command

/-! ### Keys -/

/-- A key is spelled by a text that it is the digest of, or by its digits. -/
inductive SpellsKey (key : Identifier) (word : String) : Prop
  | text (text : String) : word = "#" ++ text → key = Identifier.ofContent (Wire.utf8 text) →
      SpellsKey key word
  | digits : word.toList.map Char.toLower = key.hex.toList → SpellsKey key word

theorem not_numberSign_mem_hex (id : Identifier) : '#' ∉ id.hex.toList := by
  intro member
  obtain ⟨n, digit, same⟩ := Bytes.mem_hex member
  have all : ∀ n < 16, '#' ≠ Bytes.hexDigit n := by decide
  exact all n digit same

/-- No key is spelled by digits behind a number sign. -/
theorem key?_eq_some_iff {word : String} {key : Identifier} :
    key? word = some key ↔ SpellsKey key word := by
  unfold key?
  split
  · next text written =>
    have split : word = "#" ++ String.ofList text := by
      simp [← String.toList_inj, written]
    constructor
    · rintro ⟨⟩
      exact .text (String.ofList text) split rfl
    · rintro (⟨text', split', rfl⟩ | digits)
      · rw [(String.append_right_inj "#").1 (split.symm.trans split')]
      · rw [written, List.map_cons] at digits
        exact absurd (digits ▸ List.mem_cons_self) (not_numberSign_mem_hex key)
  · next other =>
    rw [Identifier.ofHex?_eq_some_iff]
    refine ⟨.digits, ?_⟩
    rintro (⟨text, split, -⟩ | digits)
    · refine absurd ?_ (other text.toList)
      rw [split, String.toList_append]
      rfl
    · exact digits

/-! ### Sizes -/

/-- A size is spelled by its digits, in front of which there may be a plus sign and zeros. -/
def SpellsSize (size : UInt64) (word : String) : Prop :=
  ∃ sign zeros, (sign = "" ∨ sign = "+") ∧
    word = sign ++ String.ofList (List.replicate zeros '0') ++ toString size.toNat

/-- The characters of a word without the plus sign that it begins with. -/
def unsigned : List Char → List Char
  | '+' :: rest => rest
  | cs => cs

/-- What is left are these digits just if the word is the digits, or the digits behind a plus sign. -/
theorem unsigned_eq_iff {cs ds : List Char} (digits : ∀ c ∈ ds, c.isDigit = true) :
    unsigned cs = ds ↔ cs = ds ∨ cs = '+' :: ds := by
  unfold unsigned
  split
  · next rest =>
    rw [List.cons.injEq, and_iff_right rfl, or_iff_right]
    rintro rfl
    exact absurd (digits '+' List.mem_cons_self) (by decide)
  · next other => exact (or_iff_left (other ds)).symm

theorem isDigit_iff {c : Char} : c.isDigit = true ↔ 48 ≤ c.toNat ∧ c.toNat ≤ 57 := by
  rw [Char.isDigit, Bool.and_eq_true, decide_eq_true_eq, decide_eq_true_eq, ge_iff_le,
    UInt32.le_iff_toNat_le, UInt32.le_iff_toNat_le]
  rfl

theorem toDigits_digit {c : Char} (digit : c.isDigit = true) :
    Nat.toDigits 10 (c.toNat - 48) = [c] := by
  obtain ⟨low, high⟩ := isDigit_iff.1 digit
  have small : c.toNat - 48 < 10 := by omega
  have same : Nat.digitChar (c.toNat - 48) = c := by
    rw [← Char.toNat_inj, Nat.toNat_digitChar_of_lt_ten small]
    omega
  rw [Nat.toDigits_of_lt_base small, same]

/-- Digits are zeros in front of those that their value is written with. -/
theorem exists_zeros {cs : List Char} (some : cs ≠ []) (digits : ∀ c ∈ cs, c.isDigit = true) :
    ∃ zeros, cs = List.replicate zeros '0' ++ Nat.toDigits 10 (Nat.ofDigitChars 10 cs 0) := by
  induction cs using List.reverseRecOn with
  | nil => exact absurd rfl some
  | append_singleton cs c ih =>
    have last := digits c (List.mem_append_right _ List.mem_cons_self)
    have small : c.toNat - 48 < 10 := by
      have := (isDigit_iff.1 last).2
      omega
    have value : Nat.ofDigitChars 10 (cs ++ [c]) 0 =
        10 * Nat.ofDigitChars 10 cs 0 + (c.toNat - 48) := by
      rw [Nat.ofDigitChars_append, Nat.ofDigitChars_cons, Nat.ofDigitChars_nil]
      rfl
    rw [value]
    by_cases first : cs = []
    · subst first
      exact ⟨0, by rw [Nat.ofDigitChars_nil, Nat.mul_zero, Nat.zero_add, toDigits_digit last]; rfl⟩
    · obtain ⟨zeros, same⟩ := ih first fun d member => digits d (List.mem_append_left _ member)
      by_cases none : Nat.ofDigitChars 10 cs 0 = 0
      · refine ⟨zeros + 1, ?_⟩
        rw [none, Nat.toDigits_zero] at same
        rw [none, Nat.mul_zero, Nat.zero_add, toDigits_digit last, same, List.replicate_succ']
      · refine ⟨zeros, ?_⟩
        rw [← Nat.toDigits_append_toDigits (by decide) (Nat.pos_of_ne_zero none) small,
          toDigits_digit last, ← List.append_assoc, ← same]

/-- Zeros in front of digits do not change their value. -/
theorem ofDigitChars_zeros (zeros n : Nat) :
    Nat.ofDigitChars 10 (List.replicate zeros '0' ++ Nat.toDigits 10 n) 0 = n := by
  rw [Nat.ofDigitChars_append, Nat.ofDigitChars_replicate_zero, Nat.mul_zero,
    Nat.ofDigitChars_ten_toDigits]

theorem isDigit_zeros (zeros n : Nat) :
    ∀ c ∈ List.replicate zeros '0' ++ Nat.toDigits 10 n, c.isDigit = true := by
  intro c member
  rcases List.mem_append.1 member with zero | digit
  · rw [(List.mem_replicate.1 zero).2]
    rfl
  · exact Nat.isDigit_of_mem_toDigits (by decide) (by decide) digit

/-- A size is read from digits, behind a plus sign or not, whose value has sixty-four bits. -/
theorem size?_eq_some_iff_digits {word : String} {size : UInt64} :
    size? word = some size ↔ unsigned word.toList ≠ [] ∧
      (∀ c ∈ unsigned word.toList, c.isDigit = true) ∧
      Nat.ofDigitChars 10 (unsigned word.toList) 0 = size.toNat := by
  have value (cs : List Char) :
      cs.foldl (fun n c => n * 10 + (c.toNat - 48)) 0 = Nat.ofDigitChars 10 cs 0 := by
    rw [Nat.ofDigitChars_eq_foldl]
    simp only [Nat.mul_comm]
    rfl
  have opened : size? word = if (unsigned word.toList).isEmpty ||
      !(unsigned word.toList).all Char.isDigit ||
      UInt64.size ≤ (unsigned word.toList).foldl (fun n c => n * 10 + (c.toNat - 48)) 0 then none
    else some (.ofNat ((unsigned word.toList).foldl (fun n c => n * 10 + (c.toNat - 48)) 0)) := rfl
  rw [opened, value, Option.ite_none_left_eq_some, Bool.or_eq_true, Bool.or_eq_true, not_or, not_or,
    List.isEmpty_iff, Bool.not_eq_true', Bool.not_eq_false, List.all_eq_true, decide_eq_true_eq,
    Nat.not_le, Option.some.injEq, and_assoc, and_assoc]
  refine and_congr_right fun _ => and_congr_right fun _ => ⟨?_, fun same => ?_⟩
  · rintro ⟨small, rfl⟩
    rw [UInt64.toNat_ofNat']
    exact (Nat.mod_eq_of_lt small).symm
  · rw [same]
    exact ⟨size.toNat_lt, UInt64.ofNat_toNat⟩

theorem size?_eq_some_iff {word : String} {size : UInt64} :
    size? word = some size ↔ SpellsSize size word := by
  rw [size?_eq_some_iff_digits]
  constructor
  · rintro ⟨some, digits, value⟩
    obtain ⟨zeros, same⟩ := exists_zeros some digits
    rw [value] at same
    rcases (unsigned_eq_iff (isDigit_zeros zeros size.toNat)).1 same with plain | signed
    · refine ⟨"", zeros, .inl rfl, ?_⟩
      simp [← String.toList_inj, plain]
    · refine ⟨"+", zeros, .inr rfl, ?_⟩
      simp [← String.toList_inj, signed]
  · rintro ⟨sign, zeros, signs, rfl⟩
    have same : unsigned (sign ++ String.ofList (List.replicate zeros '0') ++
        toString size.toNat).toList = List.replicate zeros '0' ++ Nat.toDigits 10 size.toNat := by
      rw [unsigned_eq_iff (isDigit_zeros zeros size.toNat)]
      rcases signs with rfl | rfl
      · simp
      · simp
    rw [same]
    refine ⟨?_, isDigit_zeros zeros size.toNat, ofDigitChars_zeros zeros size.toNat⟩
    exact List.append_ne_nil_of_right_ne_nil _ Nat.toDigits_ne_nil

end Command
end LocalSwarm
