/-! Byte strings, the big-endian numbers written in them and their hexadecimal text. -/
namespace LocalSwarm

/-- A finite string of bytes, first byte first. -/
abbrev Bytes := List UInt8

namespace Bytes

/-- The number whose base-256 digits are the bytes, most significant first. -/
def toNat (bytes : Bytes) : Nat :=
  bytes.foldl (fun n byte => n * 256 + byte.toNat) 0

/-- The low `width` base-256 digits of a number, most significant first. -/
def ofNat : (width : Nat) → Nat → Bytes
  | 0, _ => []
  | width + 1, n => ofNat width (n / 256) ++ [UInt8.ofNat n]

theorem length_ofNat (width n : Nat) : (ofNat width n).length = width := by
  induction width generalizing n with
  | zero => rfl
  | succ width ih => simp [ofNat, ih]

theorem toNat_append_singleton (bytes : Bytes) (byte : UInt8) :
    toNat (bytes ++ [byte]) = toNat bytes * 256 + byte.toNat := by
  simp [toNat]

theorem toNat_ofNat (width n : Nat) : toNat (ofNat width n) = n % Nat.pow 256 width := by
  induction width generalizing n with
  | zero => simp [ofNat, toNat, Nat.mod_one]
  | succ width ih =>
    have power : Nat.pow 256 (width + 1) = 256 * Nat.pow 256 width := Nat.pow_succ'
    rw [ofNat, toNat_append_singleton, ih, power, Nat.mod_mul]
    simp [Nat.add_comm, Nat.mul_comm]

theorem ofNat_toNat (bytes : Bytes) : ofNat bytes.length (toNat bytes) = bytes := by
  generalize same : bytes.length = width
  induction width generalizing bytes with
  | zero => exact (List.length_eq_zero_iff.1 same).symm
  | succ width ih =>
    obtain rfl | ⟨front, last, rfl⟩ := List.eq_nil_or_concat bytes
    · cases same
    · have short : front.length = width := by simpa using same
      have above : (toNat front * 256 + last.toNat) / 256 = toNat front := by
        have := last.toNat_lt
        omega
      have below : UInt8.ofNat (toNat front * 256 + last.toNat) = last := by
        rw [← UInt8.toNat_inj, UInt8.toNat_ofNat']
        have := last.toNat_lt
        omega
      rw [List.concat_eq_append, toNat_append_singleton, ofNat, above, below, ih front short]

theorem toNat_lt (bytes : Bytes) : toNat bytes < Nat.pow 256 bytes.length := by
  rw [← ofNat_toNat bytes, toNat_ofNat, length_ofNat]
  exact Nat.mod_lt _ (Nat.pow_pos (Nat.zero_lt_succ 255))

def hexDigit (n : Nat) : Char :=
  if n < 10 then Char.ofNat (48 + n) else Char.ofNat (87 + n)

def hexValue? (c : Char) : Option Nat :=
  if '0' ≤ c ∧ c ≤ '9' then some (c.toNat - 48)
  else if 'a' ≤ c ∧ c ≤ 'f' then some (c.toNat - 87)
  else if 'A' ≤ c ∧ c ≤ 'F' then some (c.toNat - 55)
  else none

def hexNat? (digits : List Char) : Option Nat :=
  digits.foldl (fun n? c => do return (← n?) * 16 + (← hexValue? c)) (some 0)

def hex (bytes : Bytes) : String :=
  String.ofList (bytes.flatMap fun byte => [hexDigit (byte.toNat / 16), hexDigit (byte.toNat % 16)])

/-- The bytes that pairs of hexadecimal digits write, last pair first. -/
def pairsReversed? : List Char → Bytes → Option Bytes
  | [], done => some done
  | [_], _ => none
  | high :: low :: rest, done =>
    match hexNat? [high, low] with
    | some n => pairsReversed? rest (UInt8.ofNat n :: done)
    | none => none

def ofHex? (text : String) : Option Bytes :=
  (pairsReversed? text.toList []).map List.reverse

end Bytes
end LocalSwarm
