import Mathlib.Data.List.Basic
import LocalSwarm.Identifier

/-! The leading bits that two identifiers share, bit by bit. Main statements:
`commonPrefix_eq_iff` and `commonPrefix_self`. -/
namespace LocalSwarm.Identifier

/-- Two identifiers agree in their first `count` bits and differ in the next one. -/
structure Shares (a b : Identifier) (count : Nat) : Prop where
  agree : ∀ j < count, a.bit j = b.bit j
  differ : a.bit count ≠ b.bit count

theorem bit_of_le {j : Nat} (beyond : 160 ≤ j) (id : Identifier) : id.bit j = false := by
  rw [bit, BitVec.getMsbD, decide_eq_false (Nat.not_lt.2 beyond), Bool.false_and]

theorem Shares.lt {a b : Identifier} {count : Nat} (h : Shares a b count) : count < 160 := by
  by_contra beyond
  have none (id : Identifier) : id.bit count = false := bit_of_le (Nat.not_lt.1 beyond) id
  exact h.differ (by rw [none a, none b])

theorem Shares.ne {a b : Identifier} {count : Nat} (h : Shares a b count) : a ≠ b := by
  rintro rfl
  exact h.differ rfl

theorem Shares.unique {a b : Identifier} {count count' : Nat} (h : Shares a b count)
    (h' : Shares a b count') : count = count' := by
  rcases Nat.lt_trichotomy count count' with less | same | more
  · exact absurd (h'.agree count less) h.differ
  · exact same
  · exact absurd (h.agree count' more) h'.differ

theorem bit_distance (a b : Identifier) (j : Nat) :
    (a.distance b).bits.getMsbD j = (a.bit j ^^ b.bit j) := BitVec.getMsbD_xor

theorem testBit_distance {j : Nat} (inside : j < 160) (a b : Identifier) :
    (a.distance b).toNat.testBit (159 - j) = (a.bit j ^^ b.bit j) := by
  rw [← bit_distance, BitVec.getMsbD, decide_eq_true inside, Bool.true_and]
  rfl

theorem distance_eq_zero_iff {a b : Identifier} : (a.distance b).toNat = 0 ↔ a = b := by
  obtain ⟨a⟩ := a
  obtain ⟨b⟩ := b
  change (a ^^^ b).toNat = (0#160).toNat ↔ _
  rw [BitVec.toNat_inj, BitVec.xor_eq_zero_iff, Identifier.mk.injEq]

/-- The highest bit of a distance is the first one in which the identifiers differ. -/
theorem shares_commonPrefix {a b : Identifier} (differ : a ≠ b) :
    Shares a b (a.distance b).commonPrefix := by
  have far : (a.distance b).toNat ≠ 0 := fun none => differ (distance_eq_zero_iff.1 none)
  have highest : (a.distance b).toNat.log2 < 160 :=
    (Nat.log2_lt far).2 (a.distance b).bits.isLt
  rw [Distance.commonPrefix, if_neg far]
  constructor
  case agree =>
    intro j before
    have zero : (a.distance b).toNat.testBit (159 - j) = false :=
      Nat.testBit_lt_two_pow (Nat.lt_of_lt_of_le Nat.lt_log2_self
        (Nat.pow_le_pow_right Nat.two_pos (by omega)))
    rw [testBit_distance (by omega)] at zero
    simpa using zero
  case differ =>
    have one : (a.distance b).toNat.testBit (159 - (159 - (a.distance b).toNat.log2)) = true := by
      rw [show 159 - (159 - (a.distance b).toNat.log2) = (a.distance b).toNat.log2 by omega]
      exact Nat.testBit_log2 far
    rw [testBit_distance (by omega)] at one
    exact fun same => by simp [same] at one

theorem commonPrefix_self (a : Identifier) : (a.distance a).commonPrefix = 160 := by
  rw [Distance.commonPrefix, if_pos (distance_eq_zero_iff.2 rfl)]

theorem commonPrefix_eq_iff {a b : Identifier} {count : Nat} (inside : count < 160) :
    (a.distance b).commonPrefix = count ↔ Shares a b count := by
  constructor
  · rintro rfl
    refine shares_commonPrefix ?_
    rintro rfl
    rw [commonPrefix_self] at inside
    exact Nat.lt_irrefl _ inside
  · intro shares
    exact (shares_commonPrefix shares.ne).unique shares

/-! ### Identifiers made to differ -/

theorem bit_divergingAt {count : Nat} (inside : count < 160) (id random : Identifier) (j : Nat) :
    (id.divergingAt count random).bit j =
      if j < count then id.bit j else if j = count then !id.bit j else random.bit j := by
  have place : (159 - count < 160 ∧ j = 160 - (159 - count) - 1) ↔ j = count := by omega
  rcases Nat.lt_or_ge j 160 with within | beyond
  · have behind : (¬ j < count + 1 ∧ j - (count + 1) < 160) ↔ count < j := by omega
    rw [divergingAt, if_pos inside]
    simp only [bit, singleBit, BitVec.getMsbD_or, BitVec.getMsbD_and, BitVec.getMsbD_xor,
      BitVec.getMsbD_not, BitVec.getMsbD_ushiftRight, BitVec.getMsbD_allOnes, BitVec.getMsbD_twoPow,
      ← decide_not, ← Bool.decide_and, place, behind, decide_eq_true within, Bool.true_and]
    rcases Nat.lt_trichotomy j count with before | rfl | after
    · simp [before, Nat.ne_of_lt before, Nat.lt_asymm before]
    · simp
    · simp [after, Nat.ne_of_gt after, Nat.lt_asymm after]
  · rw [bit_of_le beyond, bit_of_le beyond, bit_of_le beyond, if_neg (by omega), if_neg (by omega)]

/-- However its last bits are drawn, such an identifier shares just so many bits. -/
theorem shares_divergingAt {count : Nat} (inside : count < 160) (id random : Identifier) :
    Shares id (id.divergingAt count random) count where
  agree := by
    intro j before
    rw [bit_divergingAt inside, if_pos before]
  differ := by
    rw [bit_divergingAt inside, if_neg (Nat.lt_irrefl _), if_pos rfl]
    cases id.bit count <;> decide

end LocalSwarm.Identifier
