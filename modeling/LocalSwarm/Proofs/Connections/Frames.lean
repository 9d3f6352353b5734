import Mathlib.Data.List.Infix
import LocalSwarm.Connection.Exchange
import LocalSwarm.Proofs.Wire.Messages

/-! What is read off a stream on which no more than one frame was written: nothing as long as a
part of it is missing, and then the whole of it. -/
namespace LocalSwarm

-- Comparing lengths symbol by symbol would write out all digits of a number.
attribute [local irreducible] Bytes.ofNat

namespace Frame

theorem toNat_length {length : Nat} (fits : length ≤ limit) :
    Bytes.toNat (Bytes.ofNat 4 length) = length := by
  rw [Bytes.toNat_ofNat]
  exact Nat.mod_eq_of_lt (Nat.lt_of_le_of_lt fits (by decide))

/-- A frame is read off a stream exactly if it stands in front of what follows. -/
theorem read_eq_ok_iff {stream body rest : Bytes} :
    read stream = .ok (body, rest) ↔
      body.length ≤ limit ∧ stream = Bytes.ofNat 4 body.length ++ (body ++ rest) := by
  constructor
  · intro done
    simp only [read, List.splitAt_eq] at done
    split at done
    · cases done
    · split at done
      · cases done
      · split at done
        · cases done
        · rename_i head fits enough
          obtain ⟨rfl, rfl⟩ := Prod.mk.inj (Except.ok.inj done)
          have complete : (stream.take 4).length = 4 := by
            rw [List.length_take] at head ⊢
            omega
          have whole : ((stream.drop 4).take (Bytes.toNat (stream.take 4))).length =
              Bytes.toNat (stream.take 4) := by
            rw [List.length_take] at enough ⊢
            omega
          have digits := Bytes.ofNat_toNat (stream.take 4)
          rw [complete] at digits
          refine ⟨?_, ?_⟩
          · rw [whole]
            exact Nat.le_of_not_lt fits
          · rw [whole, digits, List.take_append_drop, List.take_append_drop]
  · rintro ⟨fits, rfl⟩
    have head : (Bytes.ofNat 4 body.length).length = 4 := Bytes.length_ofNat 4 _
    simp only [read, List.splitAt_eq, List.take_left' head, List.drop_left' head,
      toNat_length fits, head, Nat.lt_irrefl, if_false, if_neg (Nat.not_lt.2 fits),
      List.take_left' rfl, List.drop_left' rfl]

theorem write_eq_ok_iff {body bytes : Bytes} :
    write body = .ok bytes ↔ body.length ≤ limit ∧ bytes = Bytes.ofNat 4 body.length ++ body := by
  unfold write
  split
  · rename_i long
    exact ⟨nofun, fun ⟨fits, _⟩ => absurd long (Nat.not_lt.2 fits)⟩
  · rename_i fits
    rw [Except.ok.injEq, eq_comm]
    exact (and_iff_right (Nat.le_of_not_lt fits)).symm

/-- What is read off a part of a frame is the whole frame. -/
theorem read_part {body bytes part front rest : Bytes} (written : write body = .ok bytes)
    (begins : part <+: bytes) (done : read part = .ok (front, rest)) :
    part = bytes ∧ front = body ∧ rest = [] := by
  obtain ⟨missing, rfl⟩ := begins
  obtain ⟨fits, spelled⟩ := write_eq_ok_iff.1 written
  obtain ⟨fits', rfl⟩ := read_eq_ok_iff.1 done
  rw [List.append_assoc] at spelled
  obtain ⟨lengths, bodies⟩ := List.append_inj spelled (by simp only [Bytes.length_ofNat])
  have same : front.length = body.length := by
    rw [← toNat_length fits', lengths, toNat_length fits]
  rw [List.append_assoc, ← List.append_nil body] at bodies
  obtain ⟨rfl, nothing⟩ := List.append_inj bodies same
  obtain ⟨rfl, rfl⟩ := List.append_eq_nil_iff.1 nothing
  exact ⟨(List.append_nil _).symm, rfl, rfl⟩

end Frame

namespace Message

/-- What is written of a message: one frame, or nothing if it fits in none. -/
def frame (m : Message) : Bytes :=
  match Frame.write m.encode with
  | .ok bytes => bytes
  | .error _ => []

variable {m m' : Message} {part front rest : Bytes}

/-- What is read off a part of what is written of a message is the whole message. -/
theorem read_frame (begins : part <+: m.frame) (done : Frame.read part = .ok (front, rest)) :
    part = m.frame ∧ front = m.encode ∧ rest = [] := by
  unfold frame at begins ⊢
  cases written : Frame.write m.encode with
  | ok bytes =>
    rw [written] at begins
    exact Frame.read_part written begins done
  | error e =>
    rw [written] at begins
    obtain rfl := List.prefix_nil.1 begins
    cases done

/-- A message that one frame can carry whole. -/
structure Travels (m : Message) : Prop where
  fits : m.Fits
  short : m.encode.length ≤ Frame.limit

theorem Travels.write (h : m.Travels) : Frame.write m.encode = .ok m.frame := by
  have written := Frame.write_eq_ok_iff.2 ⟨h.short, rfl⟩
  rw [frame, written]

theorem Travels.read (h : m.Travels) : Frame.read m.frame = .ok (m.encode, []) := by
  obtain ⟨short, spelled⟩ := Frame.write_eq_ok_iff.1 h.write
  rw [spelled, Frame.read_eq_ok_iff, List.append_nil]
  exact ⟨short, rfl⟩

/-- A message is read from what is written of another one. -/
structure Conveys (m m' : Message) : Prop where
  decoded : decode m.encode = .ok m'
  same : m.Fits → m' = m

theorem conveys (decoded : decode m.encode = .ok m') : m.Conveys m' where
  decoded := decoded
  same fits := Except.ok.inj (decoded.symm.trans (decode_encode fits))

/-- The number of a message survives the way, whatever else of it does not fit. -/
theorem Conveys.correlation (h : m.Conveys m') : m'.correlation = m.correlation := by
  obtain ⟨-, flags, marks, -, -, same⟩ := decode_eq_ok_iff.1 h.decoded
  have numbers := congrArg (fun bytes => (bytes.drop 2).take 4) same
  have head (n : UInt32) : (Wire.word32 n).length = 4 := Bytes.length_ofNat 4 _
  simp only [encode, spelling, header, List.cons_append, List.append_assoc, List.drop_succ_cons,
    List.drop_zero, List.take_left' (head _)] at numbers
  have values := congrArg Bytes.toNat numbers
  simp only [Wire.word32, Bytes.toNat_ofNat] at values
  rw [Nat.mod_eq_of_lt m.correlation.toNat_lt, Nat.mod_eq_of_lt m'.correlation.toNat_lt] at values
  exact UInt32.toNat_inj.1 values.symm

end Message

namespace Exchange

theorem await_nil (k : UInt32) : await k [] = .error .closed := by
  rw [await]
  rfl

/-- Of one message that was written, or of a part of it, an exchange ends with the whole message. -/
theorem await_frame {k : UInt32} {a m : Message} {part rest : Bytes} (begins : part <+: a.frame)
    (done : await k part = .ok (m, rest)) :
    part = a.frame ∧ a.Conveys m ∧ rest = [] := by
  rw [await] at done
  split at done
  · cases done
  · rename_i front rest' read
    obtain ⟨whole, rfl, rfl⟩ := Message.read_frame begins read
    split at done
    · cases done
    · rename_i answer decoded
      simp only at done
      split at done
      · obtain ⟨rfl, rfl⟩ := Prod.mk.inj (Except.ok.inj done)
        exact ⟨whole, Message.conveys decoded, rfl⟩
      · rw [await_nil] at done
        cases done

/-- The answer is read off its frame. -/
theorem exchange_frame {request a : Message} (sent : request.Travels) (answered : a.Travels)
    (same : a.correlation = request.correlation) : exchange request a.frame = .ok (a, []) := by
  rw [exchange, sent.write]
  dsimp only
  rw [await]
  split
  · rename_i failed
    cases failed.symm.trans answered.read
  · rename_i body rest read
    obtain ⟨rfl, rfl⟩ := Prod.mk.inj (Except.ok.inj (read.symm.trans answered.read))
    rw [Message.decode_encode answered.fits]
    exact if_pos same

/-- An exchange ends with what was awaited, once its request was written. -/
theorem await_of_exchange {request m : Message} {stream rest : Bytes}
    (done : exchange request stream = .ok (m, rest)) :
    await request.correlation stream = .ok (m, rest) := by
  unfold exchange at done
  split at done
  · cases done
  · exact done

end Exchange
end LocalSwarm
