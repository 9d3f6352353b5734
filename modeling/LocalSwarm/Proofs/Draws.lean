import LocalSwarm.Proofs.Distances

/-! Identifiers that are drawn at random for one bucket. Byte by byte, the first bits of the random
bytes are overwritten by those of an identifier and the next bit is made to differ; that comes to the
same as putting the bits together in a word. Main statement: `draws_land_in_their_bucket`. -/
namespace LocalSwarm

namespace Bytes

/-- The byte of which just the bit at an index is set. The first bit is the most significant one. -/
def mask (index : Nat) : UInt8 := 0x80 >>> UInt8.ofNat (index % 8)

/-- The byte that holds the bit at an index, without its other bits. -/
def masked (bytes : Bytes) (index : Nat) : UInt8 := bytes.getD (index / 8) 0 &&& mask index

def bit (bytes : Bytes) (index : Nat) : Bool := bytes.masked index ≠ 0

/-- Overwrite a bit by the one at the same index of another string. -/
def copyBit (source bytes : Bytes) (index : Nat) : Bytes :=
  bytes.modify (index / 8) fun byte => (byte &&& ~~~mask index) ||| source.masked index

def copyBits (source bytes : Bytes) (count : Nat) : Bytes :=
  (List.range count).foldl (copyBit source) bytes

theorem toBitVec_mask (index : Nat) :
    (mask index).toBitVec = BitVec.twoPow 8 (7 - index % 8) := by
  have all : ∀ k < 8, ((0x80 : UInt8) >>> UInt8.ofNat k).toBitVec = BitVec.twoPow 8 (7 - k) := by
    decide
  exact all _ (Nat.mod_lt index (Nat.zero_lt_succ 7))

theorem mask_ne_zero (index : Nat) : mask index ≠ 0 := by
  have all : ∀ k < 8, (0x80 : UInt8) >>> UInt8.ofNat k ≠ 0 := by decide
  exact all _ (Nat.mod_lt index (Nat.zero_lt_succ 7))

theorem masked_eq (bytes : Bytes) (index : Nat) : bytes.masked index =
    if (bytes.getD (index / 8) 0).toBitVec.getLsbD (7 - index % 8) then mask index else 0 := by
  rw [← UInt8.toBitVec_inj, masked, UInt8.toBitVec_and, toBitVec_mask, BitVec.and_twoPow]
  split
  · rw [toBitVec_mask]
  · rfl

theorem bit_eq (bytes : Bytes) (index : Nat) :
    bytes.bit index = (bytes.getD (index / 8) 0).toBitVec.getLsbD (7 - index % 8) := by
  rw [bit, masked_eq]
  cases (bytes.getD (index / 8) 0).toBitVec.getLsbD (7 - index % 8) with
  | true => exact decide_eq_true (mask_ne_zero index)
  | false => rfl

theorem masked_eq_iff {xs ys : Bytes} {index : Nat} :
    xs.masked index = ys.masked index ↔ xs.bit index = ys.bit index := by
  rw [masked_eq xs, masked_eq ys, ← bit_eq, ← bit_eq]
  cases xs.bit index <;> cases ys.bit index <;> simp [mask_ne_zero, Ne.symm (mask_ne_zero _)]

theorem length_copyBit (source bytes : Bytes) (index : Nat) :
    (copyBit source bytes index).length = bytes.length := List.length_modify _ _ _

/-- In a byte that takes one bit from another byte, only that bit can be another one. -/
theorem getLsbD_blend (byte other : UInt8) {p q : Nat} (inside : q < 8) :
    (((byte.toBitVec &&& ~~~BitVec.twoPow 8 p) ||| (other.toBitVec &&& BitVec.twoPow 8 p)).getLsbD q) =
      if q = p then other.toBitVec.getLsbD q else byte.toBitVec.getLsbD q := by
  simp only [BitVec.getLsbD_or, BitVec.getLsbD_and, BitVec.getLsbD_not, BitVec.getLsbD_twoPow,
    decide_eq_true inside]
  by_cases same : q = p
  · subst same
    simp [inside]
  · simp [same, Ne.symm same]

theorem bit_copyBit {source bytes : Bytes} {index : Nat} (inside : index < 8 * bytes.length)
    (j : Nat) :
    (copyBit source bytes index).bit j = if j = index then source.bit j else bytes.bit j := by
  have here : index / 8 < bytes.length := by omega
  rw [bit_eq, bit_eq source, bit_eq bytes, copyBit, List.getD_eq_getElem?_getD,
    List.getElem?_modify, List.getD_eq_getElem?_getD, List.getD_eq_getElem?_getD]
  by_cases same : index / 8 = j / 8
  · have byte : bytes[j / 8]? = some bytes[j / 8] := List.getElem?_eq_getElem (same ▸ here)
    have place : 7 - j % 8 = 7 - index % 8 ↔ j = index := by omega
    rw [byte, Option.map_eq_map, Option.map_some, if_pos same, Option.getD_some, Option.getD_some,
      UInt8.toBitVec_or, UInt8.toBitVec_and, UInt8.toBitVec_not, masked, UInt8.toBitVec_and,
      toBitVec_mask, getLsbD_blend _ _ (by omega), same, List.getD_eq_getElem?_getD]
    simp only [place]
  · have other : j ≠ index := fun equal => same (by rw [equal])
    rw [if_neg other]
    simp only [if_neg same, Option.map_eq_map, Option.map_id']

theorem length_copyBits (source bytes : Bytes) (count : Nat) :
    (copyBits source bytes count).length = bytes.length := by
  induction count with
  | zero => rfl
  | succ count ih => rw [copyBits, List.range_succ, List.foldl_concat, length_copyBit]; exact ih

/-- Bit after bit, all those before an index are overwritten. -/
theorem bit_copyBits {source bytes : Bytes} {count : Nat} (inside : count ≤ 8 * bytes.length)
    (j : Nat) : (copyBits source bytes count).bit j =
      if j < count then source.bit j else bytes.bit j := by
  induction count with
  | zero => rfl
  | succ count ih =>
    have last : count < 8 * (copyBits source bytes count).length := by
      rw [length_copyBits]
      exact inside
    rw [copyBits, List.range_succ, List.foldl_concat]
    change (copyBit source (copyBits source bytes count) count).bit j = _
    rw [bit_copyBit last, ih (Nat.le_of_succ_le inside)]
    split_ifs <;> first | rfl | omega

theorem bit_cons (byte : UInt8) (bytes : Bytes) (j : Nat) : bit (byte :: bytes) j =
    if j < 8 then byte.toBitVec.getLsbD (7 - j) else bytes.bit (j - 8) := by
  rw [bit_eq, bit_eq]
  split
  · next first =>
    rw [Nat.div_eq_of_lt first, Nat.mod_eq_of_lt first]
    rfl
  · next behind =>
    rw [show j / 8 = (j - 8) / 8 + 1 by omega, show j % 8 = (j - 8) % 8 by omega]
    rfl

/-- The bits of a number are those of the bytes that write it. -/
theorem testBit_toNat {bytes : Bytes} {j : Nat} (inside : j < 8 * bytes.length) :
    (toNat bytes).testBit (8 * bytes.length - 1 - j) = bytes.bit j := by
  induction bytes generalizing j with
  | nil => exact absurd inside (Nat.not_lt_zero j)
  | cons byte bytes ih =>
    rw [List.length_cons, Nat.mul_succ] at inside ⊢
    rw [toNat_cons, Nat.mul_comm byte.toNat, Nat.testBit_two_pow_mul_add _ (toNat_lt_two_pow bytes),
      bit_cons]
    by_cases first : j < 8
    · rw [if_pos first, if_neg (by omega)]
      exact congrArg byte.toNat.testBit (by omega)
    · rw [if_neg first, if_pos (by omega), ← ih (by omega)]
      exact congrArg (toNat bytes).testBit (by omega)

theorem bit_of_le {bytes : Bytes} {j : Nat} (beyond : 8 * bytes.length ≤ j) :
    bytes.bit j = false := by
  rw [bit_eq, List.getD_eq_default _ _ (by omega)]
  exact BitVec.getLsbD_zero

end Bytes

namespace Identifier

/-- The identifier that twenty bytes write. -/
def ofTwenty (bytes : Bytes) : Identifier := ⟨BitVec.ofNat 160 (Bytes.toNat bytes)⟩

theorem bit_ofTwenty {bytes : Bytes} (twenty : bytes.length = 20) (j : Nat) :
    (ofTwenty bytes).bit j = bytes.bit j := by
  rcases Nat.lt_or_ge j 160 with inside | beyond
  · have fits := Bytes.toNat_lt_two_pow bytes
    rw [twenty] at fits
    have places : (Bytes.toNat bytes).testBit (8 * bytes.length - 1 - j) = bytes.bit j :=
      Bytes.testBit_toNat (by rw [twenty]; exact inside)
    rw [twenty] at places
    rw [← places, bit, BitVec.getMsbD, decide_eq_true inside, Bool.true_and, ofTwenty,
      BitVec.getLsbD_ofNat, decide_eq_true (by omega), Bool.true_and]
  · rw [bit_of_le beyond, Bytes.bit_of_le (by rw [twenty]; exact beyond)]

theorem ofTwenty_toBytes (id : Identifier) : ofTwenty id.toBytes = id := by
  rw [ofTwenty, toNat_toBytes, toNat, BitVec.ofNat_toNat, BitVec.setWidth_eq]

theorem bit_toBytes (id : Identifier) (j : Nat) : id.toBytes.bit j = id.bit j := by
  have bits : (ofTwenty id.toBytes).bit j = id.toBytes.bit j :=
    bit_ofTwenty (Bytes.length_ofNat 20 _) j
  rw [← bits, ofTwenty_toBytes]

theorem eq_of_bit {a b : Identifier} (same : ∀ j < 160, a.bit j = b.bit j) : a = b :=
  congrArg mk (BitVec.eq_of_getMsbD_eq same)

theorem bit_flipBit {id flipped : Identifier} {index : Nat}
    (done : id.flipBit index = .ok flipped) {j : Nat} (inside : j < 160) :
    flipped.bit j = if j = index then !id.bit j else id.bit j := by
  unfold flipBit at done
  split at done
  · cases done
    have place : (159 - index < 160 ∧ j = 160 - (159 - index) - 1) ↔ j = index := by omega
    rw [bit, singleBit, BitVec.getMsbD_xor, BitVec.getMsbD_twoPow, ← Bool.decide_and]
    simp only [place]
    by_cases here : j = index
    · rw [if_pos here, decide_eq_true here, Bool.xor_true]
      rfl
    · rw [if_neg here, decide_eq_false here, Bool.xor_false]
      rfl
  · cases done

/-- Random bytes of which the first bits, one by one, are overwritten by those of an identifier. -/
def copied (id : Identifier) (count : Nat) (random : Bytes) : Identifier :=
  ofTwenty (Bytes.copyBits id.toBytes random (min count 160))

/-- After that, the next bit is flipped if it is the same. -/
def drawnAt (id : Identifier) (count : Nat) (random : Bytes) : Except Fault Identifier :=
  let mixed := id.copied count random
  if count < 160 ∧ mixed.toBytes.masked count = id.toBytes.masked count then mixed.flipBit count
  else .ok mixed

variable {a : Identifier} {count : Nat} {random : Bytes}

theorem bit_copied (twenty : random.length = 20) (j : Nat) : (a.copied count random).bit j =
    if j < min count 160 then a.bit j else random.bit j := by
  rw [copied, bit_ofTwenty (by rw [Bytes.length_copyBits, twenty]),
    Bytes.bit_copyBits (by omega), bit_toBytes]

theorem drawnAt_of_le (beyond : 160 ≤ count) (twenty : random.length = 20) :
    a.drawnAt count random = .ok a := by
  rw [drawnAt, if_neg fun inside => Nat.not_lt.2 beyond inside.1]
  refine congrArg _ (eq_of_bit fun j within => ?_)
  rw [bit_copied twenty, Nat.min_eq_right beyond, if_pos within]

/-- At the bit where it is to differ it does, whether it has been flipped for that or not. -/
theorem exists_drawn (inside : count < 160) (random : Bytes) :
    ∃ drawn, a.drawnAt count random = .ok drawn ∧ ∀ j < 160,
      drawn.bit j = if j = count then !a.bit j else (a.copied count random).bit j := by
  have agree : (a.copied count random).toBytes.masked count = a.toBytes.masked count ↔
      (a.copied count random).bit count = a.bit count := by
    rw [Bytes.masked_eq_iff, bit_toBytes, bit_toBytes]
  by_cases same : (a.copied count random).bit count = a.bit count
  · obtain ⟨flipped, done⟩ : ∃ flipped, (a.copied count random).flipBit count = .ok flipped :=
      ⟨_, if_pos inside⟩
    refine ⟨flipped, (if_pos ⟨inside, agree.2 same⟩).trans done, fun j within => ?_⟩
    rw [bit_flipBit done within]
    refine ite_congr rfl (fun here => ?_) fun _ => rfl
    rw [here, same]
  · refine ⟨_, if_neg fun both => same (agree.1 both.2), fun j _ => ?_⟩
    split
    · next here =>
      rw [here]
      exact Bool.eq_not_of_ne same
    · rfl

/-- What is made of random bytes is told by its bits, and they are those of the word. -/
theorem drawnAt_of_lt (inside : count < 160) (twenty : random.length = 20) :
    a.drawnAt count random = .ok (a.divergingAt count (ofTwenty random)) := by
  obtain ⟨drawn, done, bits⟩ := exists_drawn inside random
  rw [done]
  refine congrArg _ (eq_of_bit fun j within => ?_)
  rw [bits j within, bit_copied twenty, Nat.min_eq_left (Nat.le_of_lt inside),
    bit_divergingAt inside, bit_ofTwenty twenty]
  rcases Nat.lt_trichotomy j count with before | here | after
  · simp only [before, Nat.ne_of_lt before, if_true, if_false]
  · simp [here]
  · simp only [Nat.ne_of_gt after, Nat.lt_asymm after, if_false]

/-- What an identifier is like that is drawn for the bucket of so many shared bits. -/
structure Drawn (a : Identifier) (count : Nat) (random : Bytes) (id : Identifier) : Prop where
  shares : Shares a id count
  counted : (a.distance id).commonPrefix = count
  bucket : ∀ t : RoutingTable, t.localId = a → (t.index? id).map Fin.val = some count
  tail : ∀ j, count < j → id.bit j = random.bit j

/-- Whatever bytes are drawn, an identifier that is to share so many bits with another one shares
just these, so that it belongs into their bucket, and ends in the bits that were drawn; one that is to
share all bits is the other one. Bytes that are overwritten bit by bit come to the same. -/
theorem draws_land_in_their_bucket (a : Identifier) (count : Nat) {random : Bytes}
    (twenty : random.length = 20) :
    ∃ word, ofBytes random = .ok word ∧
      a.drawnAt count random = .ok (a.divergingAt count word) ∧
      (count < 160 → Drawn a count random (a.divergingAt count word)) ∧
      (160 ≤ count → a.divergingAt count word = a) := by
  refine ⟨ofTwenty random, if_pos twenty, ?drawn, fun inside => ?bucket, fun beyond => ?itself⟩
  case drawn =>
    rcases Nat.lt_or_ge count 160 with inside | beyond
    · exact drawnAt_of_lt inside twenty
    · rw [drawnAt_of_le beyond twenty, divergingAt, if_neg (Nat.not_lt.2 beyond)]
  case bucket =>
    have shares := shares_divergingAt inside a (ofTwenty random)
    refine ⟨shares, (commonPrefix_eq_iff inside).2 shares, ?_, fun j after => ?_⟩
    · rintro t rfl
      rw [(RoutingTable.index?_eq_some_iff (i := ⟨count, inside⟩)).2 shares]
      rfl
    · rw [bit_divergingAt inside, if_neg (Nat.lt_asymm after), if_neg (Nat.ne_of_gt after),
        bit_ofTwenty twenty]
  case itself => rw [divergingAt, if_neg (Nat.not_lt.2 beyond)]

/-! The bytes agree with zero in their eleventh bit, in the middle of the second byte. -/

namespace Sample

def striped : Bytes := List.replicate 20 0x5a

def flipped : Identifier := ⟨0x003a5a5a5a5a5a5a5a5a5a5a5a5a5a5a5a5a5a5a⟩

theorem agreeing_bit_is_flipped :
    striped.length = 20 ∧ striped.bit 10 = (⟨0⟩ : Identifier).bit 10 ∧
      drawnAt ⟨0⟩ 10 striped = .ok flipped ∧ Drawn ⟨0⟩ 10 striped flipped := by
  have twenty : striped.length = 20 := by decide
  obtain ⟨word, read, same, lands, -⟩ := draws_land_in_their_bucket ⟨0⟩ 10 twenty
  have value : (⟨0⟩ : Identifier).divergingAt 10 word = flipped := by
    obtain rfl : ofTwenty striped = word := Except.ok.inj ((if_pos twenty).symm.trans read)
    decide +kernel
  rw [value] at same lands
  exact ⟨twenty, by decide +kernel, same, lands (by decide)⟩

end Sample
end Identifier
end LocalSwarm
