import Mathlib.Data.Nat.Bitwise
import LocalSwarm.Proofs.Lookups.Seeds

/-! Distances as the bytes that they are made of, as numbers and as numbers of leading bits. All
three tell the same order, so that a bucket for every number of shared bits is in line with the
distances by which peers are searched for. Main statement: `distances_are_faithful`. -/
namespace LocalSwarm

namespace Bytes

theorem toNat_append (front back : Bytes) :
    toNat (front ++ back) = toNat front * 2 ^ (8 * back.length) + toNat back := by
  induction back using List.reverseRecOn with
  | nil => simp [toNat]
  | append_singleton back byte ih =>
    have power : 2 ^ (8 * (back ++ [byte]).length) = 2 ^ (8 * back.length) * 256 := by
      rw [List.length_append, List.length_singleton, Nat.mul_succ, Nat.pow_add]
    rw [← List.append_assoc, toNat_append_singleton, toNat_append_singleton, ih, power,
      Nat.add_mul, Nat.mul_assoc, Nat.add_assoc]

theorem toNat_cons (byte : UInt8) (bytes : Bytes) :
    toNat (byte :: bytes) = byte.toNat * 2 ^ (8 * bytes.length) + toNat bytes := by
  have first : toNat [byte] = byte.toNat := Nat.zero_add _
  rw [← List.singleton_append, toNat_append, first]

theorem toNat_lt_two_pow (bytes : Bytes) : toNat bytes < 2 ^ (8 * bytes.length) := by
  have low := toNat_lt bytes
  rwa [show 256 = 2 ^ 8 from rfl, Nat.pow_eq, ← Nat.pow_mul] at low

/-- The bytes of an exclusive or are those of the numbers, each with its counterpart. -/
theorem ofNat_xor (width m n : Nat) :
    ofNat width (m ^^^ n) = List.zipWith (· ^^^ ·) (ofNat width m) (ofNat width n) := by
  induction width generalizing m n with
  | zero => rfl
  | succ width ih =>
    have above : (m ^^^ n) / 256 = m / 256 ^^^ n / 256 := Nat.xor_div_two_pow (n := 8)
    have same : (ofNat width (m / 256)).length = (ofNat width (n / 256)).length := by
      rw [length_ofNat, length_ofNat]
    rw [ofNat, ofNat, ofNat, List.zipWith_append same, above, ih, UInt8.ofNat_xor]
    rfl

/-- Byte strings of one length are in the order of the numbers that they write. -/
theorem toNat_lt_iff {xs ys : Bytes} (same : xs.length = ys.length) :
    toNat xs < toNat ys ↔ xs < ys := by
  induction xs generalizing ys with
  | nil =>
    obtain rfl := List.length_eq_zero_iff.1 same.symm
    exact iff_of_false (Nat.lt_irrefl _) (List.not_lt_nil _)
  | cons x xs ih =>
    obtain ⟨y, ys, rfl⟩ := List.exists_cons_of_length_eq_add_one same.symm
    have lengths : xs.length = ys.length := Nat.succ.inj same
    have low := toNat_lt_two_pow xs
    have low' := toNat_lt_two_pow ys
    rw [List.cons_lt_cons_iff, ← ih lengths, toNat_cons, toNat_cons, lengths, UInt8.lt_iff_toNat_lt,
      ← UInt8.toNat_inj]
    rw [lengths] at low
    generalize 2 ^ (8 * ys.length) = unit at low low'
    -- Whatever the bytes behind it, a first byte that is lower makes up for them.
    rcases Nat.lt_trichotomy x.toNat y.toNat with less | equal | more
    · have := Nat.mul_le_mul_right unit less
      rw [Nat.succ_mul] at this
      exact iff_of_true (by omega) (.inl less)
    · rw [equal]
      omega
    · have := Nat.mul_le_mul_right unit more
      rw [Nat.succ_mul] at this
      exact iff_of_false (by omega) (by omega)

/-- Zero bits in front of the first one, counted byte by byte up to the first byte that is not
zero. -/
def leadingZeros : Bytes → Nat
  | [] => 0
  | byte :: bytes => byte.toBitVec.clz.toNat + if byte = 0 then leadingZeros bytes else 0

theorem clz_eq {byte : UInt8} (some : byte ≠ 0) :
    byte.toBitVec.clz.toNat = 7 - byte.toNat.log2 ∧ byte.toNat.log2 < 8 := by
  have other : byte.toBitVec ≠ 0#8 := fun none => some (UInt8.toBitVec_inj.1 none)
  have positive : byte.toNat ≠ 0 := fun none => some (UInt8.toNat_inj.1 none)
  have few : byte.toBitVec.clz.toNat < 8 := BitVec.clz_lt_iff_ne_zero.2 other
  have place : byte.toNat.log2 = 7 - byte.toBitVec.clz.toNat := by
    refine (Nat.log2_eq_iff positive).2
      ⟨BitVec.two_pow_sub_clz_le_toNat_of_ne_zero (Nat.zero_lt_succ 7) other, ?_⟩
    rw [show 7 - byte.toBitVec.clz.toNat + 1 = 8 - byte.toBitVec.clz.toNat by omega]
    exact BitVec.toNat_lt_two_pow_sub_clz
  omega

/-- A first byte that is not zero holds the highest bit. -/
theorem log2_toNat_cons {byte : UInt8} (some : byte ≠ 0) (bytes : Bytes) :
    toNat (byte :: bytes) ≠ 0 ∧
      (toNat (byte :: bytes)).log2 = byte.toNat.log2 + 8 * bytes.length := by
  have positive : byte.toNat ≠ 0 := fun none => some (UInt8.toNat_inj.1 none)
  have low := toNat_lt_two_pow bytes
  have unit : 0 < 2 ^ (8 * bytes.length) := Nat.two_pow_pos _
  have least := Nat.mul_le_mul_right (2 ^ (8 * bytes.length)) (Nat.log2_self_le positive)
  have most := Nat.mul_le_mul_right (2 ^ (8 * bytes.length))
    (Nat.succ_le_of_lt (Nat.lt_log2_self (n := byte.toNat)))
  rw [← Nat.pow_add] at least most
  have some' : toNat (byte :: bytes) ≠ 0 := by
    rw [toNat_cons]
    have := Nat.mul_pos (Nat.pos_of_ne_zero positive) unit
    omega
  refine ⟨some', (Nat.log2_eq_iff some').2 ⟨?_, ?_⟩⟩
  · rw [toNat_cons]
    omega
  · rw [toNat_cons, Nat.add_right_comm]
    rw [Nat.succ_mul] at most
    omega

/-- The place of the highest bit of a number tells how many zero bits stand before it. -/
theorem leadingZeros_eq (bytes : Bytes) : leadingZeros bytes =
    if toNat bytes = 0 then 8 * bytes.length else 8 * bytes.length - 1 - (toNat bytes).log2 := by
  induction bytes with
  | nil => rfl
  | cons byte bytes ih =>
    rw [leadingZeros, List.length_cons, Nat.mul_succ]
    by_cases zero : byte = 0
    · subst zero
      have none : (0 : UInt8).toBitVec.clz.toNat = 8 := by decide
      have same : toNat (0 :: bytes) = toNat bytes := by
        rw [toNat_cons, UInt8.toNat_zero, Nat.zero_mul, Nat.zero_add]
      rw [if_pos rfl, none, same, ih]
      by_cases nothing : toNat bytes = 0
      · rw [if_pos nothing, if_pos nothing, Nat.add_comm]
      · have inside := (Nat.log2_lt nothing).2 (toNat_lt_two_pow bytes)
        rw [if_neg nothing, if_neg nothing]
        omega
    · obtain ⟨some, place⟩ := log2_toNat_cons zero bytes
      obtain ⟨count, inside⟩ := clz_eq zero
      rw [if_neg zero, if_neg some, place, count]
      omega

end Bytes

namespace Distance

/-- The twenty bytes of a distance, most significant first. -/
def toBytes (d : Distance) : Bytes := Bytes.ofNat 20 d.toNat

theorem toNat_toBytes (d : Distance) : Bytes.toNat d.toBytes = d.toNat := by
  rw [toBytes, Bytes.toNat_ofNat]
  exact Nat.mod_eq_of_lt d.bits.isLt

theorem length_toBytes (d : Distance) : d.toBytes.length = 20 := Bytes.length_ofNat 20 _

theorem lt_iff_toBytes_lt (d e : Distance) : d < e ↔ d.toBytes < e.toBytes := by
  rw [← Bytes.toNat_lt_iff (d.length_toBytes.trans e.length_toBytes.symm), toNat_toBytes,
    toNat_toBytes]
  rfl

theorem commonPrefix_eq_leadingZeros (d : Distance) :
    d.commonPrefix = Bytes.leadingZeros d.toBytes := by
  rw [Bytes.leadingZeros_eq, toNat_toBytes, length_toBytes, commonPrefix]

end Distance

namespace Identifier

variable {localId a b : Identifier} {i j : Nat}

theorem toNat_toBytes (id : Identifier) : Bytes.toNat id.toBytes = id.toNat := by
  rw [toBytes, Bytes.toNat_ofNat]
  exact Nat.mod_eq_of_lt id.bits.isLt

theorem toNat_distance (a b : Identifier) : (a.distance b).toNat = a.toNat ^^^ b.toNat :=
  BitVec.toNat_xor a.bits b.bits

theorem toBytes_distance (a b : Identifier) :
    (a.distance b).toBytes = List.zipWith (· ^^^ ·) a.toBytes b.toBytes := by
  rw [Distance.toBytes, toNat_distance, Bytes.ofNat_xor, toBytes, toBytes]

theorem distance_comm (a b : Identifier) : a.distance b = b.distance a :=
  congrArg Distance.mk (BitVec.xor_comm a.bits b.bits)

theorem Shares.symm (h : Shares a b i) : Shares b a i where
  agree j before := (h.agree j before).symm
  differ := h.differ.symm

/-- Who shares more bits with us is closer to us. -/
theorem Shares.closer_to_us (more : Shares localId a i) (fewer : Shares localId b j)
    (less : j < i) : localId.distance a < localId.distance b := by
  rw [distance_comm localId a, distance_comm localId b]
  refine distance_lt_of_shares fewer.symm fun k within => ?_
  exact (more.agree k (Nat.lt_of_le_of_lt within less)).symm

/-- What the distance of two identifiers is. -/
structure Measured (a b : Identifier) : Prop where
  bytes : (a.distance b).toBytes = List.zipWith (· ^^^ ·) a.toBytes b.toBytes
  number : Bytes.toNat (a.distance b).toBytes = Bytes.toNat a.toBytes ^^^ Bytes.toNat b.toBytes
  symmetric : a.distance b = b.distance a
  zero_iff : Bytes.toNat (a.distance b).toBytes = 0 ↔ a = b
  counted : (a.distance b).commonPrefix = Bytes.leadingZeros (a.distance b).toBytes
  same : a = b → (a.distance b).commonPrefix = 160
  shared : a ≠ b → Shares a b (a.distance b).commonPrefix

theorem measured (a b : Identifier) : Measured a b where
  bytes := toBytes_distance a b
  number := by
    rw [Distance.toNat_toBytes, toNat_distance, toNat_toBytes, toNat_toBytes]
  symmetric := distance_comm a b
  zero_iff := by
    rw [Distance.toNat_toBytes]
    exact distance_eq_zero_iff
  counted := Distance.commonPrefix_eq_leadingZeros _
  same := by
    rintro rfl
    exact commonPrefix_self a
  shared := shares_commonPrefix

theorem exists_index {t : RoutingTable} (other : a ≠ t.localId) :
    ∃ i, t.index? a = some i ∧ Shares t.localId a i :=
  have shares := shares_commonPrefix (Ne.symm other)
  ⟨⟨_, shares.lt⟩, RoutingTable.index?_eq_some_iff.2 shares, shares⟩

/-- The distance of two identifiers is their exclusive or, byte by byte and as a number, and the
bits that they share are those before the first one that differs. Distances are compared as the
numbers that they write, which is the order of their bytes; two identifiers at one distance from a
third one are the same; and whoever belongs to a later bucket of ours is closer to us. -/
theorem distances_are_faithful (target a b : Identifier) :
    Measured a b ∧
    (∀ d e : Distance, (d < e ↔ Bytes.toNat d.toBytes < Bytes.toNat e.toBytes) ∧
      (d < e ↔ d.toBytes < e.toBytes)) ∧
    (target.distance a = target.distance b → a = b) ∧
    ∀ t : RoutingTable, a ≠ t.localId → b ≠ t.localId →
      ∃ i j, t.index? a = some i ∧ t.index? b = some j ∧
        (j < i → t.localId.distance a < t.localId.distance b) := by
  refine ⟨measured a b, fun d e => ⟨?order, d.lt_iff_toBytes_lt e⟩, fun same => ?apart,
    fun t other other' => ?buckets⟩
  case order =>
    rw [d.toNat_toBytes, e.toNat_toBytes]
    rfl
  case apart =>
    rw [distance_comm target a, distance_comm target b] at same
    exact (distance_inj target).1 same
  case buckets =>
    obtain ⟨i, index, shares⟩ := exists_index other
    obtain ⟨j, index', shares'⟩ := exists_index other'
    exact ⟨i, j, index, index', fun less => shares.closer_to_us shares' less⟩

/-- It differs from zero in its first bit only. -/
def opposite : Identifier := ⟨0x8000000000000000000000000000000000000000⟩

theorem neighbour_is_closer :
    (⟨1⟩ : Identifier) ≠ ⟨0⟩ ∧ opposite ≠ ⟨0⟩ ∧ Measured ⟨1⟩ opposite ∧
      ∃ i j, (RoutingTable.fresh ⟨0⟩ 20).index? ⟨1⟩ = some i ∧
        (RoutingTable.fresh ⟨0⟩ 20).index? opposite = some j ∧ j < i ∧
        distance ⟨0⟩ ⟨1⟩ < distance ⟨0⟩ opposite := by
  have other : (⟨1⟩ : Identifier) ≠ ⟨0⟩ := by decide
  have other' : opposite ≠ ⟨0⟩ := by decide
  have last : (RoutingTable.fresh ⟨0⟩ 20).index? ⟨1⟩ = some 159 := by decide +kernel
  have first : (RoutingTable.fresh ⟨0⟩ 20).index? opposite = some 0 := by decide +kernel
  obtain ⟨measured, -, -, buckets⟩ := distances_are_faithful ⟨0⟩ ⟨1⟩ opposite
  obtain ⟨i, j, index, index', closer⟩ := buckets (.fresh ⟨0⟩ 20) other other'
  obtain rfl := Option.some.inj (index.symm.trans last)
  obtain rfl := Option.some.inj (index'.symm.trans first)
  exact ⟨other, other', measured, 159, 0, index, index', by decide, closer (by decide)⟩

end Identifier

end LocalSwarm
